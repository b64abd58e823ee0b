import SqlFootprint.Sql.Parser.Phrase
import SqlFootprint.Sql.Parser.Query

/-!
# Reading table definitions

Columns with their options, the constraints of a table, and the clauses after them.
-/

namespace SqlFootprint.Sql.Parse

section

variable (g : Grammar)

/-! ## Constraints -/

/-- What to do with the rows that refer to a changed one. -/
def referentialAction : Parse String := do
  if ← acceptWord "RESTRICT" then return "RESTRICT"
  else if ← acceptWord "CASCADE" then return "CASCADE"
  else if ← acceptWords ["SET", "NULL"] then return "SET NULL"
  else if ← acceptWords ["NO", "ACTION"] then return "NO ACTION"
  else if ← acceptWords ["SET", "DEFAULT"] then return "SET DEFAULT"
  else failNext "one of RESTRICT, CASCADE, SET NULL, NO ACTION or SET DEFAULT"

/-- The actions of a foreign key, each at most once and in any order. -/
def referentialActions : Parse String := do
  let (onDelete, onUpdate) ← extend (none, none) fun (onDelete, onUpdate) ↦ do
    if onDelete.isNone then
      if ← acceptWords ["ON", "DELETE"] then
        return some (some (← referentialAction), onUpdate)
    if onUpdate.isNone then
      if ← acceptWords ["ON", "UPDATE"] then
        return some (onDelete, some (← referentialAction))
    return none
  let clause (before : String) : Option String → String
    | some action => before ++ action
    | none => ""
  return clause " ON DELETE " onDelete ++ clause " ON UPDATE " onUpdate

/-- When and whether a constraint is checked. -/
structure Checking where
  deferrable : Option String := none
  initially : Option String := none
  enforced : Option String := none

namespace Checking

def render (c : Checking) : String :=
  let clause : Option String → String
    | some words => " " ++ words
    | none => ""
  clause c.deferrable ++ clause c.initially ++ clause c.enforced

end Checking

def checkingRound (c : Checking) : Parse (Option Checking) := do
  if c.deferrable.isNone then
    if ← acceptWords ["NOT", "DEFERRABLE"] then
      return some { c with deferrable := some "NOT DEFERRABLE" }
    if ← acceptWord "DEFERRABLE" then return some { c with deferrable := some "DEFERRABLE" }
  if c.initially.isNone then
    if ← acceptWord "INITIALLY" then
      match ← acceptOneOf ["DEFERRED", "IMMEDIATE"] with
      | some word => return some { c with initially := some ("INITIALLY " ++ word) }
      | none => failNext "one of DEFERRED or IMMEDIATE"
  if c.enforced.isNone then
    if ← acceptWord "ENFORCED" then return some { c with enforced := some "ENFORCED" }
    if ← acceptWords ["NOT", "ENFORCED"] then
      return some { c with enforced := some "NOT ENFORCED" }
  return none

/-- The words on checking after a constraint, in their canonical order. -/
def checking : Parse String :=
  return (← extend {} checkingRound).render

/-- The kind of an index. -/
def indexKind : Parse String := do
  match ← acceptOneOf ["BTREE", "HASH"] with
  | some word => return " USING " ++ word
  | none => failNext "index type \x7bBTREE | HASH\x7d"

def indexOptions : Parse String := do
  let options ← many do
    if ← acceptWord "USING" then return some (← indexKind)
    else if ← acceptWord "COMMENT" then return some (" COMMENT '" ++ (← stringText) ++ "'")
    else return none
  return "".intercalate options

/-- A name that an index may have. -/
def indexName : Parse String := do
  match ← attempt ident with
  | some name => return " " ++ name.render
  | none => return ""

/-- What follows the words of a key: its name, its kind, its columns, and when it is checked. -/
def keyConstraint (before : String) :
    Parse (String × List Ident × String) := do
  let name ← indexName
  let kind ← if ← acceptWord "USING" then indexKind else pure ""
  let columns ← identList false false
  let options ← indexOptions
  return (before ++ name ++ kind ++ " ", columns, options ++ (← checking))

def checkPieces : Parse (List Piece) :=
  return [.text "CHECK (", .expr (← parens g.expr), .text ")"]

def uniqueConstraint (before : String) : Parse TableConstraint := do
  let form ← acceptOneOf ["KEY", "INDEX"]
  if form.isSome && (← dialect) != .ansi then
    let tick := Dialect.backtick.toString
    failNext (tick ++ "index_name" ++ tick ++ " or " ++ tick ++ "(column_name [, ...])" ++ tick)
  let nulls ←
    if ← acceptWord "NULLS" then
      let distinct := !(← acceptWord "NOT")
      expectWord "DISTINCT"
      pure (if distinct then " NULLS DISTINCT" else " NULLS NOT DISTINCT")
    else pure ""
  let form := match form with
    | some word => " " ++ word
    | none => ""
  let (before, columns, after) ← keyConstraint (before ++ "UNIQUE" ++ nulls ++ form)
  return .other [.text (before ++ columnNames columns ++ after)]

def foreignKey (before : String) : Parse TableConstraint := do
  expectWord "KEY"
  let columns ← identList false false
  expectWord "REFERENCES"
  let table ← objectName
  let referred ← identList false false
  let actions ← referentialActions
  return .other [.text (before ++ "FOREIGN KEY " ++ columnNames columns ++ " REFERENCES " ++
    table.render ++ columnNames referred ++ actions ++ (← checking))]

/-- An index in the place of a constraint. -/
def indexConstraint (keyword : String) : Parse TableConstraint := do
  let name ← if ← atWord "USING" then pure "" else indexName
  let kind ← if ← acceptWord "USING" then indexKind else pure ""
  let columns ← identList false false
  return .other [.text (keyword ++ name ++ kind ++ " " ++ columnNames columns)]

def textIndexConstraint (keyword : String) : Parse TableConstraint := do
  let form := match ← acceptOneOf ["KEY", "INDEX"] with
    | some word => " " ++ word
    | none => ""
  let name ← indexName
  let columns ← identList false false
  return .other [.text (keyword ++ form ++ name ++ " " ++ columnNames columns)]

/-- A constraint of a table, if one comes next. -/
def tableConstraint? : Parse (Option TableConstraint) := do
  let name ← afterWord "CONSTRAINT" ident
  let before := match name with
    | some name => "CONSTRAINT " ++ name.render ++ " "
    | none => ""
  let t ← take
  let permissive := (← dialect) == .ansi
  match t.token.keyword with
  | "UNIQUE" => return some (← uniqueConstraint before)
  | "PRIMARY" =>
    expectWord "KEY"
    let (before, columns, after) ← keyConstraint (before ++ "PRIMARY KEY")
    return some (.primaryKey before columns after)
  | "FOREIGN" => return some (← foreignKey before)
  | "CHECK" => return some (.other (.text before :: (← checkPieces g)))
  | keyword =>
    if permissive && name.isNone && (keyword == "INDEX" || keyword == "KEY") then
      return some (← indexConstraint keyword)
    if permissive && (keyword == "FULLTEXT" || keyword == "SPATIAL") then
      match name with
      | some name =>
        failAt "FULLTEXT or SPATIAL option without constraint name"
          { t with token := .word { text := name.render } }
      | none => return some (← textIndexConstraint keyword)
    if name.isSome then failAt "PRIMARY, UNIQUE, FOREIGN, or CHECK" t
    back
    return none

/-! ## Column options -/

/-- How a sequence counts, each choice with a space before it. -/
def sequenceOptions : Parse String := do
  let increment ← if ← acceptWord "INCREMENT" then
      let by_ := textIf (← acceptWord "BY") " BY"
      pure (" INCREMENT" ++ by_ ++ " " ++ (← signedNumber))
    else pure ""
  let bound (word : String) : Parse String := do
    if ← acceptWord word then return " " ++ word ++ " " ++ (← signedNumber)
    else return textIf (← acceptWords ["NO", word]) (" NO " ++ word)
  let low ← bound "MINVALUE"
  let high ← bound "MAXVALUE"
  let start ← if ← acceptWord "START" then
      let with_ := textIf (← acceptWord "WITH") " WITH"
      pure (" START" ++ with_ ++ " " ++ (← signedNumber))
    else pure ""
  let cache ← if ← acceptWord "CACHE" then pure (" CACHE " ++ (← signedNumber)) else pure ""
  let cycle ←
    if ← acceptWords ["NO", "CYCLE"] then pure " NO CYCLE"
    else if ← acceptWord "CYCLE" then pure " CYCLE"
    else pure ""
  return increment ++ low ++ high ++ start ++ cache ++ cycle

/-- A column that numbers its rows. -/
def identityPieces (mode : String) : Parse (List Piece) := do
  let options ← if ← acceptSymbol "(" then
      let options ← sequenceOptions
      expectSymbol ")"
      pure (if options.isEmpty then "" else " (" ++ options ++ " )")
    else pure ""
  return [.text ("GENERATED " ++ mode ++ " AS IDENTITY" ++ options)]

/-- What follows the word `GENERATED`. If nothing that fits does, there is no option. -/
def generatedOption : Parse (Option (List Piece)) := do
  if ← acceptWords ["ALWAYS", "AS", "IDENTITY"] then return some (← identityPieces "ALWAYS")
  else if ← acceptWords ["BY", "DEFAULT", "AS", "IDENTITY"] then
    return some (← identityPieces "BY DEFAULT")
  else if ← acceptWords ["ALWAYS", "AS"] then
    if ← acceptSymbol "(" then
      let e ← g.expr
      expectSymbol ")"
      let mode ←
        if ← acceptWord "STORED" then pure " STORED"
        else if (← dialect) == .postgres then failNext "STORED"
        else if ← acceptWord "VIRTUAL" then pure " VIRTUAL"
        else pure ""
      return some [.text "GENERATED ALWAYS AS (", .expr e, .text (")" ++ mode)]
  return none

/-- How the rows of a table are ordered, from after the word `CLUSTERED`. -/
def clusteredSetting : Parse (List Piece) := do
  let columnstore := "CLUSTERED COLUMNSTORE INDEX"
  if ← acceptWords ["COLUMNSTORE", "INDEX", "ORDER"] then
    return [.text (columnstore ++ " ORDER " ++ columnNames (← identList false false))]
  else if ← acceptWords ["COLUMNSTORE", "INDEX"] then return [.text columnstore]
  else if ← acceptWord "INDEX" then
    let columns ← parens <| commaSep do
      return (← ident).render ++ (← optionalWord ["ASC", "DESC"])
    return [.text ("CLUSTERED INDEX (" ++ commaList columns ++ ")")]
  else throw (.unsupported "invalid CLUSTERED sequence" .nowhere)

/-- The ranges into which a table is divided, from after the word `PARTITION`. -/
def partitionSetting : Parse (List Piece) := do
  parens do
    let column := (← ident).render
    expectWord "RANGE"
    let side ← optionalWord ["LEFT", "RIGHT"]
    expectWords ["FOR", "VALUES"]
    return .text ("PARTITION (" ++ column ++ " RANGE" ++ side ++ " FOR VALUES (") ::
      commaPieces (← parens g.exprs) ++ [.text "))"]

/-- A setting: a name with an expression, or what the permissive dialect says in words. -/
def setting : Parse (List Piece) := do
  let word ← if (← dialect) == .ansi then pure (← next).token.keyword else pure ""
  match word with
  | "HEAP" => return [.text (← ident).render]
  | "PARTITION" =>
    let _ ← take
    partitionSetting g
  | "CLUSTERED" =>
    let _ ← take
    clusteredSetting
  | _ =>
    let key ← ident
    expectSymbol "="
    return [.text (key.render ++ " = "), .expr (← g.expr)]

/-- Settings in parentheses. -/
def settingList : Parse (List Piece) := do
  let items ← parens (commaSep (setting g))
  return .text "(" :: (items.intersperse [.text ", "]).flatten ++ [.text ")"]

/-- Settings after a word, printed after the words `before`. -/
def keyedOptions (keyword before : String) : Parse (List Piece) := do
  match ← afterWord keyword (settingList g) with
  | some settings => return .text before :: settings
  | none => return []

/-- A column computed from others, from after the word `AS`. -/
def computedOption : Parse (Option (List Piece)) := do
  let e ← parens g.expr
  let mode ←
    if ← acceptWord "STORED" then pure " STORED"
    else if ← acceptWord "VIRTUAL" then pure " VIRTUAL"
    else pure ""
  return some [.text "AS (", .expr e, .text (")" ++ mode)]

def identityOption : Parse (Option (List Piece)) := do
  if ← acceptSymbol "(" then
    let seed ← signedNumber
    expectSymbol ","
    let increment ← signedNumber
    expectSymbol ")"
    return some [.text ("IDENTITY(" ++ seed ++ ", " ++ increment ++ ")")]
  else return some [.text "IDENTITY"]

/-- Options of the permissive dialect. The other one passes over their words too, but makes no
option of them. -/
def looseOption : Parse (Option (List Piece)) := do
  let permissive := (← dialect) == .ansi
  for word in ["AUTO_INCREMENT", "AUTOINCREMENT", "ASC", "DESC"] do
    if ← acceptWord word then
      if permissive then return some [.text word]
  if ← acceptWords ["ON", "UPDATE"] then
    if permissive then return some [.text "ON UPDATE ", .expr (← g.expr)]
  if ← acceptWord "GENERATED" then return ← generatedOption g
  if permissive then
    if let some settings ← afterWord "OPTIONS" (settingList g) then
      return some (.text "OPTIONS" :: settings)
  if ← acceptWord "AS" then
    if permissive then return ← computedOption g
  if ← acceptWord "IDENTITY" then
    if permissive then return ← identityOption
  if permissive then
    if ← acceptWords ["ON", "CONFLICT"] then
      return some [.text ("ON CONFLICT " ++
        (← expectOneOf ["ROLLBACK", "ABORT", "FAIL", "IGNORE", "REPLACE"]))]
  return none

/-- An option of a column, if one comes next. -/
def columnOption? : Parse (Option ColumnOption) := do
  let permissive := (← dialect) == .ansi
  if ← acceptWords ["CHARACTER", "SET"] then
    return some (.other [.text ("CHARACTER SET " ++ (← objectName).render)])
  if ← acceptWords ["NOT", "NULL"] then return some .notNull
  if ← acceptWord "COMMENT" then
    let t ← take
    match t.token with
    | .string .plain text => return some (.other [.text ("COMMENT " ++ quoteString text)])
    | _ => failAt "string" t
  if ← acceptWord "NULL" then return some (.other [.text "NULL"])
  if ← acceptWord "DEFAULT" then return some (.other [.text "DEFAULT ", .expr (← g.expr)])
  if permissive then
    if let some word ← acceptOneOf ["MATERIALIZED", "ALIAS"] then
      return some (.other [.text (word ++ " "), .expr (← g.expr)])
    if ← acceptWord "EPHEMERAL" then
      if (← atSymbol ",") || (← atSymbol ")") then return some (.other [.text "EPHEMERAL"])
      else return some (.other [.text "EPHEMERAL ", .expr (← g.expr)])
  if ← acceptWords ["PRIMARY", "KEY"] then return some (.primaryKey (← checking))
  if ← acceptWord "UNIQUE" then return some (.other [.text ("UNIQUE" ++ (← checking))])
  if ← acceptWord "REFERENCES" then
    let table ← objectName
    let columns ← identList true false
    let actions ← referentialActions
    return some (.references [.text ("REFERENCES " ++ table.render ++
      (if columns.isEmpty then "" else " " ++ columnNames columns) ++ actions ++ (← checking))])
  if ← acceptWord "CHECK" then return some (.other (← checkPieces g))
  return (← looseOption g).map .other

/-- A column of a table. -/
def columnDef : Parse ColumnDef := do
  let name ← ident
  let type ← g.type
  let collation ← afterWord "COLLATE" objectName
  extend ⟨name, type, collation, []⟩ fun c ↦ do
    if ← acceptWord "CONSTRAINT" then
      let name ← ident
      match ← columnOption? g with
      | some o => return some { c with options := c.options ++ [(some name, o)] }
      | none => failNext "constraint details after CONSTRAINT <name>"
    else match ← columnOption? g with
      | some o => return some { c with options := c.options ++ [(none, o)] }
      | none =>
        if ← permissive (acceptWord "COLLATE") then
          return some { c with collation := some (← objectName) }
        else return none

/-- The columns and constraints of a table, in parentheses. -/
def tableBody : Parse (List ColumnDef × List TableConstraint) := do
  unless ← acceptSymbol "(" do return ([], [])
  if ← acceptSymbol ")" then return ([], [])
  let (columns, constraints, _) ← extend ([], [], false) fun (columns, constraints, closed) ↦ do
    if closed then return none
    let (columns, constraints) ←
      match ← tableConstraint? g with
      | some c => pure (columns, c :: constraints)
      | none =>
        match (← next).token with
        | .word _ => pure ((← columnDef g) :: columns, constraints)
        | _ => failNext "column name or constraint definition"
    let comma ← acceptSymbol ","
    let atEnd ← atSymbol ")"
    if !comma && !atEnd then failNext "',' or ')' after column definition"
    if atEnd && !comma then
      let _ ← take
      return some (columns, constraints, true)
    return some (columns, constraints, false)
  return (columns.reverse, constraints.reverse)

/-! ## Clauses after the columns -/

/-- How the rows of a table are kept in files. -/
structure Storage where
  rowFormat : List Piece := []
  files : List Piece := []
  /-- A file format that is one word. -/
  format : Option String := none
  properties : List Piece := []
  location : Option String := none

/-- How fields, items or rows are told apart. A first word that the others do not follow is taken
all the same, and ends the list. -/
def delimiters : Parse String := do
  let clauses : List (String × List String) :=
    [("FIELDS", ["TERMINATED", "BY"]), ("COLLECTION", ["ITEMS", "TERMINATED", "BY"]),
      ("MAP", ["KEYS", "TERMINATED", "BY"]), ("LINES", ["TERMINATED", "BY"]),
      ("NULL", ["DEFINED", "AS"])]
  let found ← many do
    match ← acceptOneOf (clauses.map Prod.fst) with
    | none => return none
    | some word =>
      let words := (clauses.lookup word).getD []
      unless ← acceptWords words do return none
      let delimiter := " " ++ " ".intercalate (word :: words) ++ " " ++ (← ident).render
      let escaped ← if ← (if word == "FIELDS" then acceptWords ["ESCAPED", "BY"] else pure false)
        then pure (" ESCAPED BY " ++ (← ident).render)
        else pure ""
      return some (delimiter ++ escaped)
  return "".intercalate found

def rowFormat : Parse (List Piece) := do
  expectWord "FORMAT"
  match ← acceptOneOf ["SERDE", "DELIMITED"] with
  | some "SERDE" => return [.text (" ROW FORMAT SERDE '" ++ (← stringText) ++ "'")]
  | _ => return [.text (" ROW FORMAT DELIMITED" ++ (← delimiters))]

def storageRound (s : Storage) : Parse (Option Storage) := do
  if ← acceptWord "ROW" then return some { s with rowFormat := ← rowFormat }
  else if ← acceptWord "STORED" then
    expectWord "AS"
    if ← acceptWord "INPUTFORMAT" then
      let input ← g.expr
      expectWord "OUTPUTFORMAT"
      let output ← g.expr
      return some { s with
        files := [.text " STORED AS INPUTFORMAT ", .expr input, .text " OUTPUTFORMAT ",
          .expr output]
        format := none }
    else return some { s with files := [], format := some (← fileFormat) }
  else if ← acceptWord "LOCATION" then return some { s with location := some (← stringText) }
  else if ← atWordsFrom 0 ["WITH", "SERDEPROPERTIES"] then
    let _ ← take
    return some { s with properties := ← keyedOptions g "SERDEPROPERTIES" " WITH SERDEPROPERTIES " }
  else return none

def storage : Parse Storage :=
  extend {} (storageRound g)

namespace Storage

/-- The clauses of a table; a table that is kept elsewhere says so last. -/
def pieces (s : Storage) (external : Bool) : List Piece :=
  let format : List Piece := match s.format with
    | some word => [.text (" STORED AS " ++ word)]
    | none => []
  let location : List Piece := match s.location with
    | some place => [.text (" LOCATION '" ++ place ++ "'")]
    | none => []
  let tail := if external then s.properties ++ format ++ location
    else format ++ s.properties ++ location
  s.rowFormat ++ s.files ++ tail

end Storage

/-- Columns by which rows are distributed over files. -/
def partitioned : Parse (List Piece) := do
  if ← acceptWords ["PARTITIONED", "BY"] then
    let columns ← parens (commaSep (columnDef g))
    return [.text (" PARTITIONED BY (" ++ commaList (columns.map ColumnDef.render) ++ ")")]
  else return []

def clustered : Parse (List Piece) := do
  if ← permissive (acceptWords ["CLUSTERED", "BY"]) then
    let columns ← identList false false
    let sorted ← if ← acceptWords ["SORTED", "BY"] then
        let keys ← parens (orderKeys g)
        pure (.text " SORTED BY (" :: orderPieces keys ++ [.text ")"])
      else pure []
    expectWord "INTO"
    let buckets ← number
    expectWord "BUCKETS"
    return .text (" CLUSTERED BY " ++ columnNames columns) :: sorted ++
      [.text (" INTO " ++ buckets ++ " BUCKETS")]
  else return []

/-- A word as the value of a setting, after an equals sign. -/
def settingWord : Parse String := do
  expectSymbol "="
  let t ← take
  match t.token with
  | .word w => return w.text
  | _ => failAt "identifier" t

/-- A setting of a table that is given as one word. -/
def wordSetting (keywords : List String) : Parse String := do
  if ← acceptWords keywords then
    return " " ++ " ".intercalate keywords ++ "=" ++ (← settingWord)
  else return ""

def engine : Parse String := do
  if ← acceptWord "ENGINE" then
    let name ← settingWord
    let parameters ← if ← atSymbol "(" then columnNames <$> identList false true else pure ""
    return " ENGINE=" ++ name ++ parameters
  else return ""

def onCommit : Parse String := do
  if ← acceptWords ["ON", "COMMIT", "DELETE", "ROWS"] then return " ON COMMIT DELETE ROWS"
  else if ← acceptWords ["ON", "COMMIT", "PRESERVE", "ROWS"] then return " ON COMMIT PRESERVE ROWS"
  else return textIf (← acceptWords ["ON", "COMMIT", "DROP"]) " ON COMMIT DROP"

/-- A comment on a table. -/
def tableComment : Parse String := do
  if ← acceptWord "COMMENT" then
    let equals ← acceptSymbol "="
    let t ← take
    match t.token with
    | .string .plain text => return " COMMENT " ++ textIf equals "= " ++ "'" ++ text ++ "'"
    | _ => failAt "comment" t
  else return ""

/-- The order in which a table keeps its rows. -/
def tableOrder : Parse (List Piece) := do
  if ← acceptWords ["ORDER", "BY"] then
    if ← acceptSymbol "(" then
      let keys ← commaSepBefore ")" g.expr
      expectSymbol ")"
      return .text " ORDER BY (" :: commaPieces keys ++ [.text ")"]
    else return [.text " ORDER BY ", .expr (← g.expr)]
  else return []

/-- A definition of a table, from after the word `TABLE`. -/
def createTable (words : String) : Parse CreateTable := do
  let words := words ++ "TABLE " ++ textIf (← acceptWords ["IF", "NOT", "EXISTS"]) "IF NOT EXISTS "
  let name ← objectName
  let placement ← onCluster
  let like ← if (← acceptOneOf ["LIKE", "ILIKE"]).isSome then attemptPast objectName else pure none
  let clone ← if ← acceptWord "CLONE" then attemptPast objectName else pure none
  let (columns, constraints) ← tableBody g
  let rowid := textIf (← acceptWords ["WITHOUT", "ROWID"]) " WITHOUT ROWID"
  let partitioned ← partitioned g
  let clustered ← clustered g
  let storage ← storage g
  let options ← keyedOptions g "WITH" " WITH "
  let properties ← keyedOptions g "TBLPROPERTIES" " TBLPROPERTIES "
  let engine ← engine
  let counter ← if ← acceptWord "AUTO_INCREMENT" then
      let _ ← acceptSymbol "="
      pure (" AUTO_INCREMENT " ++ toString (← wholeNumberIn 32))
    else pure ""
  let key ← if ← permissive (acceptWords ["PRIMARY", "KEY"]) then
      pure [.text " PRIMARY KEY ", .expr (← g.expr)]
    else pure []
  let order ← tableOrder g
  let partition ← if ← acceptWords ["PARTITION", "BY"] then
      pure [.text " PARTITION BY ", .expr (← g.expr)]
    else pure []
  let cluster ← if ← permissive (acceptWords ["CLUSTER", "BY"]) then
      pure [.text (" CLUSTER BY " ++ (← identNames))]
    else pure []
  let settings ← if (← dialect) == .ansi then keyedOptions g "OPTIONS" " OPTIONS" else pure []
  let charset ← wordSetting ["DEFAULT", "CHARSET"]
  let collation ← wordSetting ["COLLATE"]
  let commit ← onCommit
  let strict := textIf (← acceptWord "STRICT") " STRICT"
  let comment ← tableComment
  let query ← afterWord "AS" g.query
  let model (word : String) : Option ObjectName → String
    | some name => word ++ name.render
    | none => ""
  let bare := columns.isEmpty && constraints.isEmpty && query.isNone && like.isNone && clone.isNone
  return ⟨words, name, placement, columns, constraints,
    [.text (textIf bare " ()" ++ rowid ++ model " LIKE " like ++ model " CLONE " clone)] ++
      partitioned ++ clustered ++ storage.pieces false ++ properties ++ options ++
      [.text (engine ++ comment ++ counter)] ++ key ++ order ++ partition ++ cluster ++ settings ++
      [.text (charset ++ collation ++ commit ++ strict)] ++
      match query with
      | some q => [.text " AS ", .query q]
      | none => []⟩

/-- A definition of a table that is kept elsewhere, from after the word `EXTERNAL`. -/
def createExternal (words : String) : Parse CreateTable := do
  expectWord "TABLE"
  let words := words ++ "EXTERNAL TABLE " ++
    textIf (← acceptWords ["IF", "NOT", "EXISTS"]) "IF NOT EXISTS "
  let name ← objectName
  let (columns, constraints) ← tableBody g
  let partitioned ← partitioned g
  let storage ← storage g
  let properties ← keyedOptions g "TBLPROPERTIES" " TBLPROPERTIES "
  let bare := columns.isEmpty && constraints.isEmpty
  return ⟨words, name, "", columns, constraints,
    .text (textIf bare " ()") :: partitioned ++ storage.pieces true ++ properties⟩

end

end SqlFootprint.Sql.Parse
