import SqlFootprint.Json.Basic

/-!
# Records on the wire

A record is written as an object. It may be read from an object, whose further members do not
matter, or from an array with the fields in their order. An object gives each field at most once.
A field may have a default; without one it has to be there.
-/

namespace SqlFootprint

/-- The fields of a record that is read. -/
inductive Record where
  | named (members : List (String × Json))
  | positional (items : List Json)

namespace Record

/-- A record with a number of fields. An array may leave the last ones out. -/
def ofJson? (fields : Nat) : Json → Option Record
  | .object members => some (.named members)
  | .array items => if items.length ≤ fields then some (.positional items) else none
  | _ => none

/-- The value of a field, if there is one. A field that an object gives twice cannot be read. -/
def field? : Record → (index : Nat) → (name : String) → Option (Option Json)
  | named members, _, name =>
    if members.countP (·.1 == name) ≤ 1 then some (Json.member? members name) else none
  | positional items, index, _ => some items[index]?

section

variable {α : Type} (r : Record) (index : Nat) (name : String) (read : Json → Option α)

/-- A field that must be there. -/
def required : Option α := do
  read (← ← r.field? index name)

/-- A field that has a default. -/
def withDefault (default : α) : Option α := do
  match ← r.field? index name with
  | some j => read j
  | none => return default

/-- A field that may be absent or null. -/
def optional : Option (Option α) := do
  match ← r.field? index name with
  | none | some .null => return none
  | some j => (read j).map some

/-- A field that may be null, and absent only from an object. -/
def nullable : Option (Option α) := do
  match ← r.field? index name, r with
  | none, .named _ | some .null, _ => return none
  | some j, _ => (read j).map some
  | none, .positional _ => none

end

end Record

namespace Json

def toBool? : Json → Option Bool
  | .bool b => some b
  | _ => none

def toString? : Json → Option String
  | .string s => some s
  | _ => none

/-- A natural number of 64 bits. -/
def toWord? : Json → Option Nat
  | .natural n => if n < UInt64.size then some n else none
  | _ => none

/-- A natural number of 32 bits. -/
def toHalfWord? : Json → Option Nat
  | .natural n => if n < UInt32.size then some n else none
  | _ => none

def toList? {α : Type} (read : Json → Option α) : Json → Option (List α)
  | .array items => items.mapM read
  | _ => none

/-- A member of an object, unless the value is absent. -/
def optionalMember (name : String) (value : Option Json) : List (String × Json) :=
  match value with
  | some j => [(name, j)]
  | none => []

/-- A value, or null where there is none. -/
def orNull : Option Json → Json
  | some j => j
  | none => .null

/-- A word out of a list of words. It may also be the name of a single member that is null. -/
def toChoice? {α : Type} (choices : List (String × α)) : Json → Option α
  | .string s => choices.lookup s
  | .object [(s, .null)] => choices.lookup s
  | _ => none

end Json

end SqlFootprint
