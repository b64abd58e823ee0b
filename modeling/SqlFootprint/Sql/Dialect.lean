import SqlFootprint.Text.Letter

/-!
# Dialects

The two grammars that can be read, and the character classes in which they differ.
-/

namespace SqlFootprint.Sql

inductive Dialect where
  | postgres
  /-- A permissive dialect that takes the extensions of many systems. -/
  | ansi
deriving DecidableEq, Repr, Inhabited

namespace Dialect

def backtick : Char := .ofNat 96

/-- Whether a word may start with this character. -/
def startsWord : Dialect → Char → Bool
  | .postgres, c => Text.isLetter c || c == '_'
  | .ansi, c => Text.isLetter c || c == '_' || c == '#' || c == '@'

/-- Whether a word may go on with this character. -/
def continuesWord : Dialect → Char → Bool
  | .postgres, c => Text.isLetter c || c.isDigit || c == '$' || c == '_'
  | .ansi, c => Text.isLetter c || c.isDigit || c == '@' || c == '$' || c == '#' || c == '_'

/-- Whether this character opens a quoted identifier. -/
def quotesWord : Dialect → Char → Bool
  | .postgres, c => c == '"'
  | .ansi, c => c == '"' || c == backtick

/-- Whether an operator may be prolonged by this character into one that a user defined. -/
def prolongsOperator : Dialect → Char → Bool
  | .postgres, c => c == backtick || "+-*/<>=~!@#%^&|?".contains c
  | .ansi, _ => false

end Dialect

end SqlFootprint.Sql
