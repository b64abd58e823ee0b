import SqlFootprint.Sql.Parser.Definition

/-!
# Reading attachments

Extensions, other databases and cached tables, which a session takes up or gives up.
-/

namespace SqlFootprint.Sql.Parse

/-- An extension that is loaded or installed. -/
def extension (word : String) : Parse Statement :=
  return textStatement (word ++ " " ++ (← ident).render)

/-- A database that is given up. -/
def detach : Parse Statement := do
  let database := textIf (← acceptWord "DATABASE") "DATABASE "
  let guarded ← ifExists
  return textStatement ("DETACH " ++ database ++ guarded ++ (← ident).render)

/-- A table that is kept no longer. -/
def uncache : Parse Statement := do
  expectWord "TABLE"
  let guarded ← ifExists
  return textStatement ("UNCACHE TABLE " ++ guarded ++ (← objectName).render)

section

variable (g : Grammar)

/-- A database in a file, under a name. -/
def attach : Parse Statement := do
  let database := textIf (← acceptWord "DATABASE") "DATABASE "
  let file ← g.expr
  expectWord "AS"
  return .other [.text ("ATTACH " ++ database), .expr file, .text (" AS " ++ (← ident).render)]

/-- The name of a cached table, its options, and the query that fills it. -/
def cachedTable (words : String) : Parse Statement := do
  let table := (← objectName).render
  let options ← keyedOptions g "OPTIONS" " OPTIONS"
  let head := .text (words ++ table) :: options
  match (← next).token with
  | .endOfInput => return .other head
  | .word _ =>
    let as_ := textIf (← acceptWord "AS") "AS "
    return .other (head ++ [.text (" " ++ as_), .query (← g.query)])
  | _ => failNext "a QUERY statement"

/-- A table that is kept from now on. A flag may stand before the word `TABLE`. -/
def cache : Parse Statement := do
  if ← acceptWord "TABLE" then return ← cachedTable g "CACHE TABLE "
  let flag := (← objectName).render
  if ← acceptWord "TABLE" then return ← cachedTable g ("CACHE " ++ flag ++ " TABLE ")
  if (← next).token == .endOfInput then back
  let tick := Dialect.backtick.toString
  failNext ("a " ++ tick ++ "TABLE" ++ tick ++ " keyword")

end

end SqlFootprint.Sql.Parse
