import SqlFootprint.Sql.Parser.Right
import SqlFootprint.Sql.Parser.Routine

/-!
# Reading definitions

What follows the word `CREATE`.
-/

namespace SqlFootprint.Sql.Parse

section

variable (g : Grammar)

/-! ## Definitions of other things -/

def createIndex (unique : String) : Parse Statement := do
  let concurrently := textIf (← acceptWord "CONCURRENTLY") "CONCURRENTLY "
  let guarded ← ifNotExists
  let name ← if ← (if guarded.isEmpty then acceptWord "ON" else pure false) then pure ""
    else
      let name := (← objectName).render
      expectWord "ON"
      pure (name ++ " ")
  let table := (← objectName).render
  let method ← match ← afterWord "USING" ident with
    | some method => pure (" USING " ++ method.render ++ " ")
    | none => pure ""
  let keys ← parens (orderKeys g)
  let one : OrderKey → List Piece
    | .mk e options => .expr e :: options
  let included ← if ← acceptWord "INCLUDE" then
      let names ← parens (commaSep ident)
      pure (" INCLUDE (" ++ ",".intercalate (names.map Ident.render) ++ ")")
    else pure ""
  let nulls ← if ← acceptWord "NULLS" then
      let distinct := !(← acceptWord "NOT")
      expectWord "DISTINCT"
      pure (if distinct then " NULLS DISTINCT" else " NULLS NOT DISTINCT")
    else pure ""
  let options ← match ← afterWord "WITH" (parens g.exprs) with
    | some es => pure (.text " WITH (" :: commaPieces es ++ [.text ")"])
    | none => pure []
  let condition ← wordExpr g "WHERE"
  return .other (.text ("CREATE " ++ unique ++ "INDEX " ++ concurrently ++ guarded ++ name ++
    "ON " ++ table ++ method ++ "(") :: ((keys.map one).intersperse [.text ","]).flatten ++
    .text (")" ++ included ++ nulls) :: options ++ condition)

/-- A column of a view. -/
def viewColumn : Parse (List Piece) := do
  let name := (← ident).render
  if ← permissive (return ["OPTIONS", "COMMENT"].contains (← next).token.keyword) then
    match ← columnOption? g with
    | some o => return [.text (name ++ " " ++ o.render)]
    | none => return [.text name]
  else return [.text name]

def viewColumns : Parse (List Piece) := do
  if ← acceptSymbol "(" then
    let columns ← commaSepBefore ")" (viewColumn g)
    expectSymbol ")"
    if columns.isEmpty then return []
    return .text " (" :: (columns.intersperse [.text ", "]).flatten ++ [.text ")"]
  else return []

/-- A comment on a view, in the dialect that has them. -/
def viewComment : Parse String := do
  if ← permissive (acceptWord "COMMENT") then
    expectSymbol "="
    let t ← take
    match t.token with
    | .string .plain text => return " COMMENT = " ++ quoteString text
    | _ => failAt "string literal" t
  else return ""

/-- A view, from before the word `MATERIALIZED` or `VIEW`. -/
def createView (orReplace temporary : String) : Parse Statement := do
  let materialized := textIf (← acceptWord "MATERIALIZED") "MATERIALIZED "
  expectWord "VIEW"
  let permissive := (← dialect) == .ansi
  let guarded ← if permissive then ifNotExists else pure ""
  let name := (← objectName).render
  let columns ← viewColumns g
  let options ← keyedOptions g "WITH" " WITH "
  let cluster ← if ← acceptWord "CLUSTER" then
      expectWord "BY"
      let columns ← identList true false
      pure (if columns.isEmpty then "" else " CLUSTER BY " ++ columnNames columns)
    else pure ""
  let moreOptions ← if permissive then keyedOptions g "OPTIONS" " OPTIONS" else pure []
  let target ← match ← (if permissive then afterWord "TO" objectName else pure none) with
    | some target => pure (" TO " ++ target.render)
    | none => pure ""
  let comment ← viewComment
  expectWord "AS"
  let query ← g.query
  let unbound ← Parse.permissive (acceptWords ["WITH", "NO", "SCHEMA", "BINDING"])
  return .other (.text ("CREATE " ++ orReplace ++ materialized ++ temporary ++ "VIEW " ++ guarded ++
    name ++ target) :: columns ++ (if moreOptions.isEmpty then options else []) ++
    [.text (comment ++ cluster)] ++ moreOptions ++
    [.text " AS ", .query query, .text (textIf unbound " WITH NO SCHEMA BINDING")])

def createSchema : Parse Statement := do
  let guarded ← ifNotExists
  let name ← if ← atWord "AUTHORIZATION" then pure "" else ObjectName.render <$> objectName
  let owner ← match ← afterWord "AUTHORIZATION" ident with
    | some owner => pure ("AUTHORIZATION " ++ owner.render)
    | none => pure ""
  let space := textIf (!name.isEmpty && !owner.isEmpty) " "
  return textStatement ("CREATE SCHEMA " ++ guarded ++ name ++ space ++ owner)

def createDatabase : Parse Statement := do
  let guarded ← ifNotExists
  let name := (← objectName).render
  let places ← extend ([] : List (String × String)) fun places ↦ do
    match ← acceptOneOf ["LOCATION", "MANAGEDLOCATION"] with
    | some word => return some ((word, " " ++ word ++ " '" ++ (← stringText) ++ "'") :: places)
    | none => return none
  return textStatement ("CREATE DATABASE " ++ guarded ++ name ++
    "".intercalate (["LOCATION", "MANAGEDLOCATION"].filterMap (List.lookup · places)))

def createSequence (temporary : String) : Parse Statement := do
  let guarded ← ifNotExists
  let name := (← objectName).render
  let type ← match ← afterWord "AS" g.type with
    | some t => pure (" AS " ++ t.render)
    | none => pure ""
  let options ← sequenceOptions
  let owner ← if ← acceptWords ["OWNED", "BY"] then
      if ← acceptWord "NONE" then pure " OWNED BY NONE"
      else pure (" OWNED BY " ++ (← objectName).render)
    else pure ""
  return textStatement ("CREATE " ++ temporary ++ "SEQUENCE " ++ guarded ++ name ++ type ++
    options ++ owner)

def createExtension : Parse Statement := do
  let guarded ← ifNotExists
  let name := (← ident).render
  if ← acceptWord "WITH" then
    let part (word : String) : Parse String := do
      match ← afterWord word ident with
      | some i => return " " ++ word ++ " " ++ i.render
      | none => return ""
    let schema ← part "SCHEMA"
    let version ← part "VERSION"
    let cascade := textIf (← acceptWord "CASCADE") " CASCADE"
    let clauses := schema ++ version ++ cascade
    return textStatement ("CREATE EXTENSION " ++ guarded ++ name ++
      textIf (!clauses.isEmpty) (" WITH" ++ clauses))
  else return textStatement ("CREATE EXTENSION " ++ guarded ++ name)

/-- A list of values as a type, from after the word `ENUM`. -/
def createEnum (name : ObjectName) : Parse Statement := do
  unless ← acceptSymbol "(" do failNext "'(' after CREATE TYPE AS ENUM"
  let labels ← commaSepBefore ")" ident
  unless ← acceptSymbol ")" do failNext "')' after CREATE TYPE AS ENUM"
  return textStatement ("CREATE TYPE " ++ name.render ++ " AS ENUM " ++ columnNames labels)

def createType : Parse Statement := do
  let name ← objectName
  expectWord "AS"
  let members ← if ← acceptSymbol "(" then
      if ← acceptSymbol ")" then pure [] else
        let (members, _) ← extend ([], false) fun (members, closed) ↦ do
          if closed then return none
          let member := (← ident).render ++ " " ++ (← g.type).render
          let collation ← match ← afterWord "COLLATE" objectName with
            | some c => pure (" COLLATE " ++ c.render)
            | none => pure ""
          let comma ← acceptSymbol ","
          let closed ← acceptSymbol ")"
          if !comma && !closed then failNext "',' or ')' after attribute definition"
          return some ((member ++ collation) :: members, closed)
        pure members.reverse
    else pure []
  return textStatement ("CREATE TYPE " ++ name.render ++ " AS (" ++ commaList members ++ ")")

/-- A table that a module of the database provides. -/
def createVirtualTable : Parse Statement := do
  expectWord "TABLE"
  let guarded ← ifNotExists
  let name := (← objectName).render
  expectWord "USING"
  let module := (← ident).render
  let arguments ← identList true false
  return textStatement ("CREATE VIRTUAL TABLE " ++ guarded ++ name ++ " USING " ++ module ++
    if arguments.isEmpty then "" else " " ++ columnNames arguments)

/-- Credentials under a name, kept in some place. -/
def createSecret (words : String) : Parse Statement := do
  let guarded ← ifNotExists
  let named (before : String) : Parse String := do
    match ← attemptPast ident with
    | some name => return before ++ name.render ++ " "
    | none => return ""
  let place : Parse String := do
    if ← acceptWord "IN" then named "IN " else return ""
  let names ← if ← atSymbol "(" then pure "" else
      let leading ← atWord "IN"
      let first ← if leading then place else named ""
      if leading && !first.isEmpty then pure first
      else if ← atSymbol "(" then pure first
      else pure (first ++ (← place))
  expectSymbol "("
  expectWord "TYPE"
  let type := (← ident).render
  let options ← if ← acceptSymbol "," then commaSep do
      let key := (← ident).render
      return ", " ++ key ++ " " ++ (← ident).render
    else pure []
  expectSymbol ")"
  return textStatement ("CREATE " ++ words ++ "SECRET " ++ guarded ++ names ++ "( TYPE " ++ type ++
    "".intercalate options ++ " )")

/-- A definition, from after the word `CREATE`. -/
def create : Parse Statement := do
  let orReplace := textIf (← acceptWords ["OR", "REPLACE"]) "OR REPLACE "
  let orAlter := textIf (← acceptWords ["OR", "ALTER"]) "OR ALTER "
  let local_ ← acceptWord "LOCAL"
  let global := if ← acceptWord "GLOBAL" then "GLOBAL " else textIf local_ "LOCAL "
  let transient := textIf (← acceptWord "TRANSIENT") "TRANSIENT "
  let temporary := textIf (← acceptOneOf ["TEMP", "TEMPORARY"]).isSome "TEMPORARY "
  if ← acceptWord "TABLE" then
    return .createTable (← createTable g
      ("CREATE " ++ orReplace ++ global ++ temporary ++ transient))
  if (← atWord "MATERIALIZED") || (← atWord "VIEW") then
    return ← createView g orReplace temporary
  if ← acceptWord "POLICY" then return ← createPolicy g
  if ← acceptWord "EXTERNAL" then
    return .createTable (← createExternal g ("CREATE " ++ orReplace))
  if ← acceptWord "FUNCTION" then return ← createFunction g (orReplace ++ temporary)
  if ← acceptWord "TRIGGER" then return ← createTrigger g orReplace
  if ← acceptWords ["CONSTRAINT", "TRIGGER"] then
    return ← createTrigger g (orReplace ++ "CONSTRAINT ")
  if ← atWord "MACRO" then
    unless ← permissive (acceptWord "MACRO") do failNext "an object type after CREATE"
    return ← createMacro g (orReplace ++ temporary)
  if ← acceptWord "SECRET" then return ← createSecret (orReplace ++ temporary)
  if !orReplace.isEmpty then
    failNext "[EXTERNAL] TABLE or [MATERIALIZED] VIEW or FUNCTION after CREATE OR REPLACE"
  if ← acceptWord "EXTENSION" then createExtension
  else if ← acceptWord "INDEX" then createIndex g ""
  else if ← acceptWords ["UNIQUE", "INDEX"] then createIndex g "UNIQUE "
  else if ← acceptWord "VIRTUAL" then createVirtualTable
  else if ← acceptWord "SCHEMA" then createSchema
  else if ← acceptWord "DATABASE" then createDatabase
  else if ← acceptWord "ROLE" then createRole
  else if ← acceptWord "SEQUENCE" then createSequence g temporary
  else if ← acceptWord "TYPE" then createType g
  else if ← acceptWord "PROCEDURE" then createProcedure g orAlter
  else failNext "an object type after CREATE"

end

end SqlFootprint.Sql.Parse
