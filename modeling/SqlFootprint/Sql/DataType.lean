import SqlFootprint.Sql.Ident

/-!
# Data types

Types as they are declared. `render` prints a type in its canonical spelling.
-/

namespace SqlFootprint.Sql

/-- The length of a character type. -/
inductive CharLength where
  | maximum
  | count (n : Nat) (unit : Option String)
deriving DecidableEq, Repr

/-- The digits of an exact number: none given, a precision, or a precision and a scale. -/
inductive ExactDigits where
  | unspecified
  | precision (p : Nat)
  | scaled (p s : Nat)
deriving DecidableEq, Repr

/-- Whether a time knows its zone, and how that is written. -/
inductive ZoneForm where
  | unspecified
  | withZone
  | withoutZone
  /-- The zone is part of the word, as in `TIMETZ`. -/
  | suffix
deriving DecidableEq, Repr

/-- A type. Each `name` is the canonical spelling of its keyword. -/
inductive DataType where
  /-- A keyword alone, such as `DATE`. -/
  | keyword (name : String)
  | sized (name : String) (size : Option Nat)
  | integer (name : String) (width : Option Nat) (unsigned : Bool)
  | chars (name : String) (length : Option CharLength)
  | exact (name : String) (digits : ExactDigits)
  | clock (name : String) (precision : Option Nat) (zone : ZoneForm)
  | custom (name : ObjectName) (modifiers : List String)
  /-- A type given by its values, such as `ENUM`. -/
  | values (name : String) (items : List String)
  | array (element : DataType) (size : Option Nat)
  /-- A type constructor and its arguments between `before` and `after`. -/
  | applied (before : String) (arguments : List DataType) (after : String)
  /-- A type with members, which may be named. -/
  | record (before : String) (members : List (Option Ident × DataType)) (after : String)
deriving Repr, Inhabited

namespace CharLength

def render : CharLength → String
  | .maximum => "MAX"
  | .count n none => toString n
  | .count n (some unit) => toString n ++ " " ++ unit

end CharLength

namespace ExactDigits

def render : ExactDigits → String
  | .unspecified => ""
  | .precision p => s!"({p})"
  | .scaled p s => s!"({p},{s})"

end ExactDigits

namespace DataType

def renderSize : Option Nat → String
  | none => ""
  | some n => s!"({n})"

def renderChars (name : String) : Option CharLength → String
  | none => name
  | some length => name ++ "(" ++ length.render ++ ")"

def renderClock (name : String) (precision : Option Nat) : ZoneForm → String
  | .unspecified => name ++ renderSize precision
  | .withZone => name ++ renderSize precision ++ " WITH TIME ZONE"
  | .withoutZone => name ++ renderSize precision ++ " WITHOUT TIME ZONE"
  | .suffix => name ++ "TZ" ++ renderSize precision

mutual

/-- The canonical spelling of a type. -/
def render : DataType → String
  | .keyword name => name
  | .sized name size => name ++ renderSize size
  | .integer name width unsigned =>
    name ++ renderSize width ++ if unsigned then " UNSIGNED" else ""
  | .chars name length => renderChars name length
  | .exact name digits => name ++ digits.render
  | .clock name precision zone => renderClock name precision zone
  | .custom name [] => name.render
  | .custom name modifiers => name.render ++ "(" ++ commaList modifiers ++ ")"
  | .values name items => name ++ "(" ++ commaList items ++ ")"
  | .array element none => element.render ++ "[]"
  | .array element (some n) => element.render ++ s!"[{n}]"
  | .applied before arguments after => before ++ commaList (renderAll arguments) ++ after
  | .record before members after => before ++ commaList (renderMembers members) ++ after

def renderAll : List DataType → List String
  | [] => []
  | t :: ts => t.render :: renderAll ts

def renderMembers : List (Option Ident × DataType) → List String
  | [] => []
  | m :: ms => renderMember m :: renderMembers ms

def renderMember : Option Ident × DataType → String
  | (some name, t) => name.render ++ " " ++ t.render
  | (none, t) => t.render

end

end DataType

end SqlFootprint.Sql
