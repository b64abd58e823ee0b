import SqlFootprint.Sql.Parser.Routine

/-!
# Reading removals

What follows the word `DROP`.
-/

namespace SqlFootprint.Sql.Parse

section

variable (g : Grammar)

/-- Things that are dropped by their names. -/
def dropNamed (temporary kind : String) : Parse Statement := do
  let guarded ← ifExists
  let names ← objectNames
  let place ← next
  let cascade := textIf (← acceptWord "CASCADE") " CASCADE"
  let restrict := textIf (← acceptWord "RESTRICT") " RESTRICT"
  let purge := textIf (← acceptWord "PURGE") " PURGE"
  if !cascade.isEmpty && !restrict.isEmpty then
    throw (.unsupported "Cannot specify both CASCADE and RESTRICT in DROP" place)
  if kind == "ROLE" && !(cascade ++ restrict ++ purge).isEmpty then
    throw (.unsupported "Cannot specify CASCADE, RESTRICT, or PURGE in DROP ROLE" place)
  return textStatement ("DROP " ++ temporary ++ kind ++ " " ++ guarded ++ names ++ cascade ++
    restrict ++ purge)

/-- Routines, which are dropped by their names and arguments. -/
def dropRoutines (kind : String) : Parse Statement := do
  let guarded ← ifExists
  let functions ← commaSep (functionReference g)
  return .other (.text ("DROP " ++ kind ++ " " ++ guarded) ::
    (functions.intersperse [.text ", "]).flatten ++
    [.text (← optionalWord ["CASCADE", "RESTRICT"])])

/-- Something that belongs to a table. -/
def dropOnTable (kind : String) (name : Parse String) : Parse Statement := do
  let guarded ← ifExists
  let name ← name
  expectWord "ON"
  let table := (← objectName).render
  return textStatement ("DROP " ++ kind ++ " " ++ guarded ++ name ++ " ON " ++ table ++
    (← optionalWord ["CASCADE", "RESTRICT"]))

def dropSecret (temporary : String) : Parse Statement := do
  let guarded ← ifExists
  let name := (← ident).render
  let place ← if ← acceptWord "FROM" then attemptPast ident else pure none
  return textStatement ("DROP " ++ temporary ++ "SECRET " ++ guarded ++ name ++
    labelled " FROM " (place.map Ident.render))

def drop : Parse Statement := do
  let temporary := textIf (← permissive (acceptWord "TEMPORARY")) "TEMPORARY "
  match ← acceptOneOf
    ["TABLE", "VIEW", "INDEX", "ROLE", "SCHEMA", "DATABASE", "SEQUENCE", "STAGE", "TYPE",
      "FUNCTION", "POLICY", "PROCEDURE", "SECRET", "TRIGGER"] with
  | some "FUNCTION" => dropRoutines g "FUNCTION"
  | some "PROCEDURE" => dropRoutines g "PROCEDURE"
  | some "POLICY" => dropOnTable "POLICY" (Ident.render <$> ident)
  | some "TRIGGER" => dropOnTable "TRIGGER" (ObjectName.render <$> objectName)
  | some "SECRET" => dropSecret temporary
  | some kind => dropNamed temporary kind
  | none =>
    failNext ("TABLE, VIEW, INDEX, ROLE, SCHEMA, DATABASE, FUNCTION, PROCEDURE, STAGE, " ++
      "TRIGGER, SECRET, SEQUENCE, or TYPE after DROP")

end

end SqlFootprint.Sql.Parse
