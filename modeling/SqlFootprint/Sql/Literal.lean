import SqlFootprint.Sql.Ident

/-!
# Literals

The canonical spelling of strings: the form is kept, and the content is escaped as the form needs
it.
-/

namespace SqlFootprint.Sql

/-- A character of a string with backslash escapes. -/
def escapeChar : Char → List Char
  | '\'' => ['\\', '\'']
  | '\\' => ['\\', '\\']
  | '\n' => ['\\', 'n']
  | '\t' => ['\\', 't']
  | '\r' => ['\\', 'r']
  | c => [c]

/-- A number in capital hexadecimal digits, filled up to a width. -/
def hexUpper (width n : Nat) : List Char :=
  let digits := (Nat.toDigits 16 n).map Char.toUpper
  List.replicate (width - digits.length) '0' ++ digits

/-- A character of a string with Unicode escapes. -/
def escapeUnicode (c : Char) : List Char :=
  if c == '\'' then ['\'', '\'']
  else if c == '\\' then ['\\', '\\']
  else if c.toNat < 0x80 then [c]
  else if c.toNat ≤ 0xFFFF then '\\' :: hexUpper 4 c.toNat
  else '\\' :: '+' :: hexUpper 6 c.toNat

/-- The canonical spelling of a string. -/
def StringForm.literal (form : StringForm) (text : String) : String :=
  match form with
  | .plain => quoteString text
  | .escaped => "E'" ++ .ofList (text.toList.flatMap escapeChar) ++ "'"
  | .unicode => "U&'" ++ .ofList (text.toList.flatMap escapeUnicode) ++ "'"
  | form => form.quoted text

end SqlFootprint.Sql
