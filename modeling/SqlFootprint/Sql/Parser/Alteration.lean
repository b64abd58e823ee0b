import SqlFootprint.Sql.Parser.Right
import SqlFootprint.Sql.Parser.Routine

/-!
# Reading alterations

What follows the word `ALTER`. A change of a table is one of many operations, and several may stand
with commas between them.
-/

namespace SqlFootprint.Sql.Parse

section

variable (g : Grammar)

/-! ## Parts of a table -/

/-- A part of a table given by its values, from after the word `PARTITION`. -/
def partitionValues : Parse (List Piece) := do
  return .text "PARTITION (" :: commaPieces (← parens g.exprs) ++ [.text ")"]

/-- A part of a table given by one expression, with the words of the operation on it. -/
def partitionOperation (word : String) : Parse (List Piece) := do
  let kind ← expectOneOf ["PART", "PARTITION"]
  let part ← g.expr
  let name ← if word == "FREEZE" || word == "UNFREEZE" then
      afterWord "WITH" do
        expectWord "NAME"
        return (← ident).render
    else pure none
  return [.text (word ++ " " ++ kind ++ " "), .expr part, .text (labelled " WITH NAME " name)]

/-- Parts that are renamed, from after the word `PARTITION`. -/
def renamePartition : Parse (List Piece) := do
  let old ← partitionValues g
  expectWords ["RENAME", "TO", "PARTITION"]
  return old ++ .text " RENAME TO " :: (← partitionValues g)

/-! ## Projections -/

/-- A projection that is added, from after its first word. -/
def addProjection : Parse (List Piece) := do
  let guarded ← ifNotExists
  let name := (← ident).render
  let parts ← parens do
    expectWord "SELECT"
    let items ← commaSep (selectItem g)
    let keys ← grouping g
    let order ← if ← acceptWords ["ORDER", "BY"] then
        let keys ← orderKeys g
        pure (.text " ORDER BY " :: orderPieces keys ++ (← interpolation g))
      else pure []
    return ((items.map itemPieces).intersperse [.text ", "]).flatten ++ .text keys.render :: order
  return .text ("ADD PROJECTION " ++ guarded ++ name ++ " (SELECT ") :: parts ++ [.text ")"]

/-- A projection that is cleared or built, from after the words of the operation. -/
def projectionOperation (words : String) : Parse (List Piece) := do
  let guarded ← ifExists
  let name := (← ident).render
  let partition ← if ← acceptWords ["IN", "PARTITION"] then
      pure (" IN PARTITION " ++ (← ident).render)
    else pure ""
  return [.text (words ++ guarded ++ name ++ partition)]

/-! ## Columns -/

/-- Where a column stands among the others, in the dialect that says so. -/
def columnPosition : Parse String := do
  if (← dialect) != .ansi then return ""
  if ← acceptWord "FIRST" then return " FIRST"
  match ← afterWord "AFTER" ident with
  | some column => return " AFTER " ++ column.text
  | none => return ""

/-- A new type of a column, its options and its position. -/
def columnChange : Parse String := do
  let type ← g.type
  let options ← many (columnOption? g)
  let options := options.map fun o ↦ " " ++ o.render
  return type.render ++ "".intercalate options ++ (← columnPosition)

/-- Numbers for the rows of a column, from after the words `ADD GENERATED`. -/
def addGenerated : Parse String := do
  let mode ←
    if ← acceptWord "ALWAYS" then pure " ALWAYS"
    else pure (textIf (← acceptWords ["BY", "DEFAULT"]) " BY DEFAULT")
  expectWords ["AS", "IDENTITY"]
  let options ← if ← acceptSymbol "(" then
      let options ← sequenceOptions
      expectSymbol ")"
      pure (" (" ++ options ++ " )")
    else pure ""
  return "ADD GENERATED" ++ mode ++ " AS IDENTITY" ++ options

/-- A change of a column, from after the word `ALTER`. -/
def alterColumn : Parse (List Piece) := do
  let _ ← acceptWord "COLUMN"
  let head := "ALTER COLUMN " ++ (← ident).render ++ " "
  let postgres := (← dialect) == .postgres
  if ← acceptWords ["SET", "NOT", "NULL"] then return [.text (head ++ "SET NOT NULL")]
  else if ← acceptWords ["DROP", "NOT", "NULL"] then return [.text (head ++ "DROP NOT NULL")]
  else if ← acceptWords ["SET", "DEFAULT"] then
    return [.text (head ++ "SET DEFAULT "), .expr (← g.expr)]
  else if ← acceptWords ["DROP", "DEFAULT"] then return [.text (head ++ "DROP DEFAULT")]
  else
    let retyped ← acceptWords ["SET", "DATA", "TYPE"]
    let retyped ← if !retyped && postgres then acceptWord "TYPE" else pure retyped
    if retyped then
      let type ← g.type
      let conversion ← if postgres then afterWord "USING" g.expr else pure none
      return .text (head ++ "SET DATA TYPE " ++ type.render) :: match conversion with
        | some e => [.text " USING ", .expr e]
        | none => []
    else if ← acceptWords ["ADD", "GENERATED"] then return [.text (head ++ (← addGenerated))]
    else if postgres then
      failNext ("SET/DROP NOT NULL, SET DEFAULT, SET DATA TYPE, or ADD GENERATED after " ++
        "ALTER COLUMN")
    else failNext "SET/DROP NOT NULL, SET DEFAULT, or SET DATA TYPE after ALTER COLUMN"

/-! ## Operations on a table -/

/-- What is added, from after the word `ADD`. -/
def addToTable : Parse (List Piece) := do
  if let some c ← tableConstraint? g then return [.text ("ADD " ++ c.render)]
  if ← permissive (acceptWord "PROJECTION") then return ← addProjection g
  let early ← ifNotExists
  let partitions ← many (afterWord "PARTITION" (partitionValues g))
  if !partitions.isEmpty then
    return .text ("ADD " ++ early) :: (partitions.intersperse [.text " "]).flatten
  let word := textIf (← acceptWord "COLUMN") "COLUMN "
  let late ← ifNotExists
  let column ← columnDef g
  return [.text ("ADD " ++ word ++ (if late.isEmpty then early else late) ++ column.render ++
    (← columnPosition))]

/-- What is renamed, from after the word `RENAME`. -/
def renameInTable : Parse (List Piece) := do
  let pair (before : String) : Parse (List Piece) := do
    let old := (← ident).render
    expectWord "TO"
    return [.text (before ++ old ++ " TO " ++ (← ident).render)]
  if ← (if (← dialect) == .postgres then acceptWord "CONSTRAINT" else pure false) then
    pair "RENAME CONSTRAINT "
  else if ← acceptWord "TO" then return [.text ("RENAME TO " ++ (← objectName).render)]
  else
    let _ ← acceptWord "COLUMN"
    pair "RENAME COLUMN "

/-- What is dropped, from after the word `DROP`. The words of the permissive dialect are passed over
in the other one. -/
def dropFromTable : Parse (List Piece) := do
  let permissive := (← dialect) == .ansi
  let named (kind : String) : Parse (List Piece) := do
    let guarded ← ifExists
    let name := (← ident).render
    return [.text ("DROP " ++ kind ++ " " ++ guarded ++ name ++ (← optionalWord ["CASCADE"]))]
  if ← acceptWords ["IF", "EXISTS", "PARTITION"] then
    return .text "DROP IF EXISTS " :: (← partitionValues g)
  if ← acceptWord "PARTITION" then return .text "DROP " :: (← partitionValues g)
  if ← acceptWord "CONSTRAINT" then return ← named "CONSTRAINT"
  if ← acceptWords ["PRIMARY", "KEY"] then
    if permissive then return [.text "DROP PRIMARY KEY"]
  if ← acceptWord "PROJECTION" then
    if permissive then
      let guarded ← ifExists
      return [.text ("DROP PROJECTION " ++ guarded ++ (← ident).render)]
  if ← acceptWords ["CLUSTERING", "KEY"] then return [.text "DROP CLUSTERING KEY"]
  let _ ← acceptWord "COLUMN"
  named "COLUMN"

/-- What is switched on or off. -/
def switchInTable (word kinds : String) (forms : List String) : Parse (List Piece) := do
  if ← acceptWords ["ROW", "LEVEL", "SECURITY"] then return [.text (word ++ " ROW LEVEL SECURITY")]
  for form in forms do
    for kind in ["RULE", "TRIGGER"] do
      let words := if form.isEmpty then [kind] else [form, kind]
      if ← acceptWords words then
        return [.text (word ++ " " ++ " ".intercalate words ++ " " ++ (← ident).render)]
  failNext (kinds ++ "ROW LEVEL SECURITY, RULE, or TRIGGER after " ++ word)

/-- An operation that only the permissive dialect has. -/
def permissiveOperation : Parse (Option (List Piece)) := do
  if (← dialect) != .ansi then return none
  match ← acceptOneOf ["ATTACH", "DETACH", "FREEZE", "UNFREEZE"] with
  | some word => return some (← partitionOperation g word)
  | none => return none

/-- One change of a table. -/
def alterOperation : Parse (List Piece) := do
  let permissive := (← dialect) == .ansi
  if ← acceptWord "ADD" then return ← addToTable g
  if ← acceptWord "RENAME" then return ← renameInTable
  if ← acceptWord "DISABLE" then return ← switchInTable "DISABLE" "" [""]
  if ← acceptWord "ENABLE" then
    return ← switchInTable "ENABLE" "ALWAYS, REPLICA, " ["ALWAYS", "REPLICA", ""]
  for word in ["CLEAR", "MATERIALIZE"] do
    if ← acceptWords [word, "PROJECTION"] then
      if permissive then return ← projectionOperation (word ++ " PROJECTION ")
  if ← acceptWord "DROP" then return ← dropFromTable g
  if ← acceptWord "PARTITION" then return ← renamePartition g
  if ← acceptWord "CHANGE" then
    let _ ← acceptWord "COLUMN"
    let names := (← ident).render ++ " " ++ (← ident).render
    return [.text ("CHANGE COLUMN " ++ names ++ " " ++ (← columnChange g))]
  if ← acceptWord "MODIFY" then
    let _ ← acceptWord "COLUMN"
    let name := (← ident).render
    return [.text ("MODIFY COLUMN " ++ name ++ " " ++ (← columnChange g))]
  if ← acceptWord "ALTER" then return ← alterColumn g
  if ← acceptWord "SWAP" then
    expectWord "WITH"
    return [.text ("SWAP WITH " ++ (← objectName).render)]
  if ← acceptWords ["OWNER", "TO"] then return [.text ("OWNER TO " ++ (← owner))]
  if let some operation ← permissiveOperation g then return operation
  if ← acceptWords ["CLUSTER", "BY"] then
    return .text "CLUSTER BY (" :: commaPieces (← parens g.exprs) ++ [.text ")"]
  for word in ["SUSPEND", "RESUME"] do
    if ← acceptWords [word, "RECLUSTER"] then return [.text (word ++ " RECLUSTER")]
  if ← acceptWords ["SET", "TBLPROPERTIES"] then
    return .text "SET TBLPROPERTIES" :: (← settingList g)
  failNext "ADD, RENAME, PARTITION, SWAP, DROP, or SET TBLPROPERTIES after ALTER TABLE"

/-- Where a table is kept from now on. -/
def newLocation : Parse String := do
  if ← acceptWord "LOCATION" then return " LOCATION " ++ (← ident).render
  else if ← acceptWords ["SET", "LOCATION"] then return " SET LOCATION " ++ (← ident).render
  else return ""

/-! ## Alterations -/

def alterTable : Parse Statement := do
  let guarded ← ifExists
  let only := textIf (← acceptWord "ONLY") "ONLY "
  let name := (← objectName).render
  let cluster ← onCluster
  let operations ← commaSep (alterOperation g)
  return .other (.text ("ALTER TABLE " ++ guarded ++ only ++ name ++ cluster ++ " ") ::
    (operations.intersperse [.text ", "]).flatten ++ [.text (← newLocation)])

def alterIndex : Parse Statement := do
  let name := (← objectName).render
  unless ← acceptWord "RENAME" do failNext "RENAME after ALTER INDEX"
  unless ← acceptWord "TO" do failNext "TO after RENAME"
  return textStatement ("ALTER INDEX " ++ name ++ " RENAME TO " ++ (← objectName).render)

def alterView : Parse Statement := do
  let name := (← objectName).render
  let columns ← identList true false
  let options ← keyedOptions g "WITH" " WITH "
  expectWord "AS"
  let columns := if columns.isEmpty then "" else " " ++ columnNames columns
  return .other (.text ("ALTER VIEW " ++ name) :: options ++
    [.text (columns ++ " AS "), .query (← g.query)])

def alter : Parse Statement := do
  match ← expectOneOf ["VIEW", "TABLE", "INDEX", "ROLE", "POLICY"] with
  | "TABLE" => alterTable g
  | "INDEX" => alterIndex
  | "VIEW" => alterView g
  | "ROLE" => alterRole g
  | _ => alterPolicy g

end

end SqlFootprint.Sql.Parse
