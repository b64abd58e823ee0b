import SqlFootprint.Sql.Token

/-!
# Identifiers

Names keep their spelling and quotes, and print as they were written.
-/

namespace SqlFootprint.Sql

structure Ident where
  text : String
  quote : Option Char := none
deriving DecidableEq, Repr, Inhabited

/-- A dotted name, outermost part first. -/
abbrev ObjectName := List Ident

/-- The body of a quoted text. A quote inside is doubled, except that a pair stays one pair and
a quote after a backslash stays alone. -/
def escapeQuotes (quote : Char) : (afterBackslash : Bool) → List Char → List Char
  | _, [] => []
  | afterBackslash, [c] =>
    if c == quote && !afterBackslash then [c, c] else [c]
  | true, c :: d :: rest =>
    c :: escapeQuotes quote (c == quote || c == '\\') (d :: rest)
  | false, c :: d :: rest =>
    if c == quote then
      if d == quote then c :: c :: escapeQuotes quote false rest
      else c :: c :: escapeQuotes quote false (d :: rest)
    else c :: escapeQuotes quote (c == '\\') (d :: rest)

def quoteWith (quote : Char) (text : String) : String :=
  quote.toString ++ .ofList (escapeQuotes quote false text.toList) ++ quote.toString

def quoteString (text : String) : String :=
  quoteWith '\'' text

def Ident.render (i : Ident) : String :=
  match i.quote with
  | some q => quoteWith q i.text
  | none => i.text

def Word.toIdent (w : Word) : Ident :=
  ⟨w.text, w.quote⟩

namespace ObjectName

def render (name : ObjectName) : String :=
  ".".intercalate (name.map Ident.render)

end ObjectName

/-- Parts joined by a comma and a space. -/
def commaList (parts : List String) : String :=
  ", ".intercalate parts

end SqlFootprint.Sql
