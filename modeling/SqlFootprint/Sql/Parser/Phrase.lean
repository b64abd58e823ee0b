import SqlFootprint.Sql.Parser.Grammar

/-!
# Reading phrases

Short runs of words that many statements share, read as the text they are printed as.
-/

namespace SqlFootprint.Sql.Parse

/-- Text that is printed only if it was read. -/
def textIf (read : Bool) (text : String) : String :=
  if read then text else ""

/-- A statement that is nothing but its text. -/
def textStatement (text : String) : Statement :=
  .other [.text text]

/-- An optional part with the words before it. -/
def labelled (before : String) : Option String → String
  | some text => before ++ text
  | none => ""

/-- The first of several words that comes next, with a space before it. -/
def optionalWord (keywords : List String) : Parse String :=
  return labelled " " (← acceptOneOf keywords)

def ifExists : Parse String :=
  return textIf (← acceptWords ["IF", "EXISTS"]) "IF EXISTS "

def ifNotExists : Parse String :=
  return textIf (← acceptWords ["IF", "NOT", "EXISTS"]) "IF NOT EXISTS "

/-- The machines on which a statement runs. -/
def onCluster : Parse String := do
  if ← acceptWords ["ON", "CLUSTER"] then return " ON CLUSTER " ++ (← ident).render else return ""

/-- The name of a file format. -/
def fileFormat : Parse String := do
  match ← acceptOneOf
    ["AVRO", "JSONFILE", "ORC", "PARQUET", "RCFILE", "SEQUENCEFILE", "TEXTFILE"] with
  | some word => return word
  | none => failNext "fileformat"

def objectNames : Parse String :=
  return commaList ((← commaSep objectName).map ObjectName.render)

def identNames : Parse String :=
  return commaList ((← commaSep ident).map Ident.render)

def columnNames (names : List Ident) : String :=
  "(" ++ commaList (names.map Ident.render) ++ ")"

/-- Statements with semicolons between them. The word `END` after a statement ends the list. -/
def statements (g : Grammar) : Parse (List Statement) := do
  let (statements, _, _) ← extend ([], false, false) fun (statements, expecting, ended) ↦ do
    if ended then return none
    let skipped ← many do
      if ← acceptSymbol ";" then return some () else return none
    let expecting := expecting && skipped.isEmpty
    let t ← next
    if t.token == .endOfInput then return none
    if expecting && t.token.keyword == "END" then return some (statements, expecting, true)
    if expecting then failAt "end of statement" t
    return some ((← g.statement) :: statements, true, false)
  return statements.reverse

end SqlFootprint.Sql.Parse
