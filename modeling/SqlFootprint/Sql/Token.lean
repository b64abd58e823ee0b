import SqlFootprint.Text.Case

/-!
# Tokens

What the lexer delivers: words, numbers, strings, operators and their places in the text.
-/

namespace SqlFootprint.Sql

/-- A place in a text, counted in characters from line 1, column 1. -/
structure Position where
  line : Nat
  column : Nat
deriving DecidableEq, Repr, Inhabited

namespace Position

def start : Position := ⟨1, 1⟩

/-- The place after one more character. -/
def after (p : Position) (c : Char) : Position :=
  if c == '\n' then ⟨p.line + 1, 1⟩ else ⟨p.line, p.column + 1⟩

/-- The suffix that names a place in an error message. -/
def suffix (p : Position) : String :=
  s!" at Line: {p.line}, Column: {p.column}"

end Position

/-- A name or keyword. `keyword` is the upper case of an unquoted word and empty for a quoted
one, so a quoted word never acts as a keyword. -/
structure Word where
  text : String
  quote : Option Char := none
  keyword : String := if quote.isNone then Text.upper text else ""
deriving DecidableEq, Repr, Inhabited

/-- The ways to write a character string. -/
inductive StringForm where
  | plain
  | national
  | escaped
  | unicode
  | hex
  | bits
  /-- A byte string between double quotes. -/
  | doubleBits
  /-- A raw string between one or three quotes, single or double. -/
  | raw (double triple : Bool)
  | dollar (tag : Option String)
deriving DecidableEq, Repr, Inhabited

inductive Token where
  | word (w : Word)
  | number (digits : String) (long : Bool)
  | string (form : StringForm) (text : String)
  /-- Punctuation or an operator, kept as its canonical spelling. -/
  | symbol (spelling : String)
  /-- An operator that is not built in. -/
  | customOperator (spelling : String)
  | placeholder (text : String)
  /-- A character that starts no token. -/
  | stray (c : Char)
  | endOfInput
deriving DecidableEq, Repr, Inhabited

/-- The text of a string in its own quotes, with its content unchanged. -/
def StringForm.quoted (form : StringForm) (text : String) : String :=
  match form with
  | .plain => "'" ++ text ++ "'"
  | .national => "N'" ++ text ++ "'"
  | .escaped => "E'" ++ text ++ "'"
  | .unicode => "U&'" ++ text ++ "'"
  | .hex => "X'" ++ text ++ "'"
  | .bits => "B'" ++ text ++ "'"
  | .doubleBits => "B\"" ++ text ++ "\""
  | .raw false false => "R'" ++ text ++ "'"
  | .raw true false => "R\"" ++ text ++ "\""
  | .raw false true => "R'''" ++ text ++ "'''"
  | .raw true true => "R\"\"\"" ++ text ++ "\"\"\""
  | .dollar none => "$$" ++ text ++ "$$"
  | .dollar (some tag) => "$" ++ tag ++ "$" ++ text ++ "$" ++ tag ++ "$"

def Word.render (w : Word) : String :=
  match w.quote with
  | some q => q.toString ++ w.text ++ q.toString
  | none => w.text

/-- A token as an error message shows it. -/
def Token.render : Token → String
  | .word w => w.render
  | .number digits long => if long then digits ++ "L" else digits
  | .string form text => form.quoted text
  | .symbol spelling | .customOperator spelling => spelling
  | .placeholder text => text
  | .stray c => c.toString
  | .endOfInput => "EOF"

/-- What may stand between two tokens. -/
inductive Gap where
  | tab
  | newline
  /-- Another blank, or a comment, as it is shown. -/
  | other (text : String)
deriving DecidableEq, Repr, Inhabited

/-- A token, where it starts, and what stands before it. -/
structure Located where
  token : Token
  position : Position
  gaps : List Gap := []
deriving DecidableEq, Repr, Inhabited

/-- The end of the input, for faults that have no place. -/
def Located.nowhere : Located := ⟨.endOfInput, .start, []⟩

end SqlFootprint.Sql
