import SqlFootprint.Diagnosis.Basic
import SqlFootprint.Text.Digit

/-!
# Errors of a source text

Why a text yields no statements. The place of a syntax error is found in its message, which names
it as `Line: 1, Column: 2`; the first such mark counts.
-/

namespace SqlFootprint

/-- A line and a column as they are written: digits of any script. -/
structure PositionMark where
  line : List Char
  column : List Char

namespace PositionMark

def digits (cs : List Char) : Option (List Char × List Char) :=
  match cs.span Text.isDecimalDigit with
  | ([], _) => none
  | run => some run

/-- The mark that a text starts with. The colon after the second word may be missing. -/
def atStart? (cs : List Char) : Option PositionMark := do
  let (line, rest) ← digits (← "Line: ".toList.isPrefixOf? cs)
  let rest ← ", Column".toList.isPrefixOf? rest
  let rest := (":".toList.isPrefixOf? rest).getD rest
  let (column, _) ← digits (← " ".toList.isPrefixOf? rest)
  return ⟨line, column⟩

/-- The first mark of a text. -/
def find? : List Char → Option PositionMark
  | [] => none
  | c :: cs => (atStart? (c :: cs)).or (find? cs)

/-- A number in ASCII digits that fits in 64 bits. -/
def number? (cs : List Char) : Option Nat :=
  if cs.all Char.isDigit then
    let n := cs.foldl (fun n c ↦ 10 * n + (c.toNat - 48)) 0
    if n < UInt64.size then some n else none
  else none

/-- The line and the column as numbers. -/
def value? (m : PositionMark) : Option (Nat × Nat) := do
  return (← number? m.line, ← number? m.column)

end PositionMark

/-- Why a source text yields no statements. -/
inductive SourceError where
  | empty
  | malformed (message : String) (position : Option (Nat × Nat))
deriving DecidableEq, Repr

namespace SourceError

/-- A syntax error with the place that its message names. -/
def ofMessage (message : String) : SourceError :=
  .malformed message ((PositionMark.find? message.toList).bind PositionMark.value?)

def render : SourceError → String
  | empty => "input is empty"
  | malformed message _ => message

def toDiagnostic (file : String) : SourceError → Diagnostic
  | empty =>
    { code := .sqlEmptyInput, severity := .error
      message := "No SQL to analyze: input is empty", location := some ⟨file, none, none⟩ }
  | malformed message position =>
    { code := .sqlParseError, severity := .error
      message := "Failed to parse SQL: " ++ message
      location := some ⟨file, position.map (·.1), position.map (·.2)⟩ }

end SourceError

end SqlFootprint
