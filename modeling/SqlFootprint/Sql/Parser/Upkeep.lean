import SqlFootprint.Sql.Parser.Expr
import SqlFootprint.Sql.Parser.Phrase

/-!
# Reading statements of upkeep

Plans, statistics, checks and notes about tables, each from after its first word.
-/

namespace SqlFootprint.Sql.Parse

section

variable (g : Grammar)

/-! ## Explaining, checking and emptying -/

def explainFormat : Parse String := do
  match ← acceptOneOf ["GRAPHVIZ", "JSON", "TEXT"] with
  | some word => return "FORMAT " ++ word ++ " "
  | none => failNext "fileformat"

def explainOptions : Parse (List Piece) := do
  let options ← parens <| commaSep do
    let name := (← ident).render
    if (← atSymbol ",") || (← atSymbol ")") then return [.text name]
    else return [.text (name ++ " "), .expr (← g.expr)]
  return .text "(" :: (options.intersperse [.text ", "]).flatten ++ [.text ") "]

/-- A plan of a statement, or the columns of a table. -/
def explain (word : String) : Parse Statement := do
  let options ←
    if word == "EXPLAIN" && (← atSymbol "(") then explainOptions g
    else if ← acceptWords ["QUERY", "PLAN"] then pure [.text "QUERY PLAN "]
    else
      let analyzed := textIf (← acceptWord "ANALYZE") "ANALYZE "
      let verbose := textIf (← acceptWord "VERBOSE") "VERBOSE "
      let format ← if ← acceptWord "FORMAT" then explainFormat else pure ""
      pure [.text (analyzed ++ verbose ++ format)]
  let nested := ["EXPLAIN", "DESCRIBE", "DESC"].contains (← next).token.keyword
  match ← attempt g.statement with
  | some statement =>
    if nested then throw (.unsupported "Explain must be root of the plan" .nowhere)
    return .other (.text (word ++ " ") :: options ++ [.text statement.render])
  | none =>
    let format ← match ← acceptOneOf ["EXTENDED", "FORMATTED"] with
      | some kind => pure (kind ++ " ")
      | none => pure ""
    return textStatement (word ++ " " ++ format ++ (← objectName).render)

/-- The choices in gathering statistics. -/
structure AnalyzeOptions where
  partitions : List Piece := []
  compute : Bool := false
  noscan : Bool := false
  cache : Bool := false
  columns : Option (List Ident) := none

def analyzeRound (o : AnalyzeOptions) : Parse (Option AnalyzeOptions) := do
  match ← acceptOneOf ["PARTITION", "FOR", "CACHE", "NOSCAN", "COMPUTE"] with
  | some "PARTITION" =>
    let es ← parens g.exprs
    return some { o with partitions := .text " PARTITION (" :: commaPieces es ++ [.text ")"] }
  | some "NOSCAN" => return some { o with noscan := true }
  | some "FOR" =>
    expectWord "COLUMNS"
    return some { o with columns := some ((← attempt (commaSep ident)).getD []) }
  | some "CACHE" =>
    expectWord "METADATA"
    return some { o with cache := true }
  | some _ =>
    expectWord "STATISTICS"
    return some { o with compute := true }
  | none => return none

def analyze : Parse Statement := do
  expectWord "TABLE"
  let table := (← objectName).render
  let o ← extend {} (analyzeRound g)
  let columns := match o.columns with
    | none => ""
    | some names => " FOR COLUMNS" ++ listClause " " (names.map Ident.render) ""
  return .other (.text ("ANALYZE TABLE " ++ table) :: o.partitions ++
    [.text (textIf o.compute " COMPUTE STATISTICS" ++ textIf o.noscan " NOSCAN" ++
      textIf o.cache " CACHE METADATA" ++ columns)])

def truncate : Parse Statement := do
  let table := textIf (← acceptWord "TABLE") "TABLE "
  let only := textIf (← acceptWord "ONLY") "ONLY "
  let names ← objectNames
  let partitions ← match ← afterWord "PARTITION" (parens g.exprs) with
    | some es => pure (.text " PARTITION (" :: commaPieces es ++ [.text ")"])
    | none => pure []
  let identity ←
    if ← acceptWords ["RESTART", "IDENTITY"] then pure " RESTART IDENTITY"
    else pure (textIf (← acceptWords ["CONTINUE", "IDENTITY"]) " CONTINUE IDENTITY")
  let cascade ← optionalWord ["CASCADE", "RESTRICT"]
  return .other (.text ("TRUNCATE " ++ table ++ only ++ names ++ identity ++ cascade) ::
    partitions ++ [.text (← onCluster)])

def assertion : Parse Statement := do
  let condition ← g.expr
  let message ← match ← afterWord "AS" g.expr with
    | some e => pure [.text " AS ", .expr e]
    | none => pure []
  return .other (.text "ASSERT " :: .expr condition :: message)

/-! ## Repairing and flushing -/

/-- A repair of the partitions of a table. -/
def repairTable : Parse Statement := do
  let repair := textIf (← acceptWord "REPAIR") "REPAIR "
  expectWord "TABLE"
  let table := (← objectName).render
  let action ← attempt do
    let word ← optionalWord ["ADD", "DROP", "SYNC"]
    expectWord "PARTITIONS"
    return textIf (!word.isEmpty) (word ++ " PARTITIONS")
  return textStatement ("MSCK " ++ repair ++ "TABLE " ++ table ++ action.getD "")

/-- A rebuilding of the parts of a table. -/
def optimize : Parse Statement := do
  expectWord "TABLE"
  let table := (← objectName).render
  let cluster ← onCluster
  let part ← if ← acceptWord "PARTITION" then
      if ← acceptWord "ID" then pure [.text (" PARTITION ID " ++ (← ident).render)]
      else pure [.text " PARTITION ", .expr (← g.expr)]
    else pure []
  let final_ := textIf (← acceptWord "FINAL") " FINAL"
  let distinct ← if ← acceptWord "DEDUPLICATE" then
      pure (.text " DEDUPLICATE" :: (← wordExpr g "BY"))
    else pure []
  return .other (.text ("OPTIMIZE TABLE " ++ table ++ cluster) :: part ++ .text final_ :: distinct)

/-- The tables that are flushed, and how. -/
structure FlushedTables where
  names : List ObjectName := []
  readLock : Bool := false
  export_ : Bool := false

/-- What follows the word `TABLES`, up to a token that is no word, which is taken too. Keywords
that mean nothing here are passed over. -/
def flushedTables : Parse FlushedTables := do
  let (tables, _) ← extend (({} : FlushedTables), false) fun (tables, ended) ↦ do
    if ended then return none
    match (← next).token with
    | .word w =>
      if !isKeyword w.keyword then
        return some ({ tables with names := ← commaSep objectName }, false)
      let _ ← take
      match w.keyword with
      | "WITH" => return some ({ tables with readLock := ← acceptWords ["READ", "LOCK"] }, false)
      | "FOR" => return some ({ tables with export_ := ← acceptWord "EXPORT" }, false)
      | _ => return some (tables, false)
    | _ =>
      let _ ← take
      return some (tables, true)
  return tables

def flush : Parse Statement := do
  let place ← optionalWord ["NO_WRITE_TO_BINLOG", "LOCAL"]
  let head := "FLUSH" ++ place ++ " "
  for words in [["BINARY", "LOGS"], ["ENGINE", "LOGS"], ["ERROR", "LOGS"], ["GENERAL", "LOGS"],
      ["HOSTS"], ["PRIVILEGES"], ["OPTIMIZER_COSTS"], ["SLOW", "LOGS"], ["STATUS"],
      ["USER_RESOURCES"], ["LOGS"]] do
    if ← acceptWords words then return textStatement (head ++ " ".intercalate words)
  if ← acceptWords ["RELAY", "LOGS"] then
    let channel ← if ← acceptWords ["FOR", "CHANNEL"] then
        pure (" FOR CHANNEL " ++ (← objectName).render)
      else pure ""
    return textStatement (head ++ "RELAY LOGS" ++ channel)
  if ← acceptWord "TABLES" then
    let tables ← flushedTables
    return textStatement (head ++ "TABLES" ++
      listClause " " (tables.names.map ObjectName.render) "" ++
      textIf tables.readLock " WITH READ LOCK" ++ textIf tables.export_ " FOR EXPORT")
  failNext ("BINARY LOGS, ENGINE LOGS, ERROR LOGS, GENERAL LOGS, HOSTS, LOGS, PRIVILEGES, " ++
    "OPTIMIZER_COSTS,RELAY LOGS [FOR CHANNEL channel], SLOW LOGS, STATUS, USER_RESOURCES")

/-! ## Messages -/

def comment : Parse Statement := do
  let guarded ← ifExists
  expectWord "ON"
  let t ← take
  let kind := t.token.keyword
  unless ["COLUMN", "TABLE", "EXTENSION", "SCHEMA", "DATABASE", "USER", "ROLE"].contains kind do
    failAt "comment object_type" t
  let name := (← objectName).render
  expectWord "IS"
  let text ← if ← acceptWord "NULL" then pure "NULL" else pure ("'" ++ (← stringText) ++ "'")
  return textStatement ("COMMENT " ++ guarded ++ "ON " ++ kind ++ " " ++ name ++ " IS " ++ text)

def notify : Parse Statement := do
  let channel := (← ident).render
  let payload ← if ← acceptSymbol "," then pure (", '" ++ (← stringText) ++ "'") else pure ""
  return textStatement ("NOTIFY " ++ channel ++ payload)

def unlisten : Parse Statement := do
  if ← acceptSymbol "*" then return textStatement "UNLISTEN *"
  match ← attempt ident with
  | some name => return textStatement ("UNLISTEN " ++ name.render)
  | none => failNext "wildcard or identifier"

end

end SqlFootprint.Sql.Parse
