/-!
# Json values

Values as they are exchanged. Natural numbers are exact; any other number keeps its spelling,
because nothing here computes with it.
-/

namespace SqlFootprint

inductive Json where
  | null
  | bool (b : Bool)
  | natural (n : Nat)
  /-- A number that is negative or has a fraction or an exponent. -/
  | number (text : String)
  | string (s : String)
  | array (items : List Json)
  | object (members : List (String × Json))
deriving Repr, Inhabited

namespace Json

/-- The value of a member. Of several members of one name the last one counts. -/
def member? (members : List (String × Json)) (name : String) : Option Json :=
  (members.reverse.find? (·.1 == name)).map (·.2)

mutual

/-- How deep a value is nested. -/
def height : Json → Nat
  | .array items => heightOfItems items + 1
  | .object members => heightOfMembers members + 1
  | .null | .bool _ | .natural _ | .number _ | .string _ => 1

def heightOfItems : List Json → Nat
  | [] => 0
  | j :: js => max j.height (heightOfItems js)

def heightOfMembers : List (String × Json) → Nat
  | [] => 0
  | m :: ms => max (heightOfMember m) (heightOfMembers ms)

def heightOfMember : String × Json → Nat
  | (_, j) => j.height

end

end Json

end SqlFootprint
