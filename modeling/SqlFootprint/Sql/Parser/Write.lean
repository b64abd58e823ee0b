import SqlFootprint.Sql.Parser.Phrase
import SqlFootprint.Sql.Parser.Source

/-!
# Reading writes

`INSERT`, `UPDATE` and `DELETE`, each from after its first word.
-/

namespace SqlFootprint.Sql.Parse

section

variable (g : Grammar)

/-- What to do on a conflict, in the words before the table. -/
def conflictWords : Parse String := do
  let rec choose : List String → Parse String
    | [] => return ""
    | w :: ws => do
      if ← acceptWords ["OR", w] then return "OR " ++ w ++ " " else choose ws
  choose ["REPLACE", "ROLLBACK", "ABORT", "FAIL", "IGNORE"]

/-! ## Assignments -/

def assignTarget : Parse AssignTarget := do
  if ← acceptSymbol "(" then
    let names ← commaSep objectName
    expectSymbol ")"
    return .tuple names
  else return .column (← objectName)

def assignment : Parse Assignment := do
  let target ← assignTarget
  expectSymbol "="
  return .mk target (← g.expr)

/-- Assignments in a position where they are only printed. -/
def assignmentPieces (assignments : List Assignment) : List Piece :=
  let one : Assignment → List Piece
    | .mk target value => [.text (target.render ++ " = "), .expr value]
  ((assignments.map one).intersperse [.text ", "]).flatten

def filter : Parse (Option Expr) :=
  afterWord "WHERE" g.expr

/-! ## Insertion -/

/-- What an insertion does where a row is there already. -/
def onConflict : Parse (List Piece) := do
  let target ←
    if ← acceptWords ["ON", "CONSTRAINT"] then
      pure (" ON CONSTRAINT " ++ (← objectName).render)
    else if ← atSymbol "(" then
      pure ("(" ++ commaList ((← identList false false).map Ident.render) ++ ")")
    else pure ""
  let head : Piece := .text (" ON CONFLICT" ++ target)
  expectWord "DO"
  if ← acceptWord "NOTHING" then return [head, .text " DO NOTHING"]
  expectWords ["UPDATE", "SET"]
  let assignments ← commaSep (assignment g)
  return head :: .text " DO UPDATE SET " :: assignmentPieces assignments ++ (← wordExpr g "WHERE")

/-- The clauses that may follow the rows of an insertion. -/
def insertTail : Parse (List Piece) := do
  let aliasName ← if ← permissive (acceptWord "AS") then
      let name ← objectName
      let columns ← identList true false
      pure [.text (" AS " ++ name.render ++ listClause " (" (columns.map Ident.render) ")")]
    else pure []
  let conflict ← if ← acceptWord "ON" then
      if ← acceptWord "CONFLICT" then onConflict g
      else
        expectWords ["DUPLICATE", "KEY", "UPDATE"]
        let assignments ← commaSep (assignment g)
        pure (.text " ON DUPLICATE KEY UPDATE " :: assignmentPieces assignments)
    else pure []
  return aliasName ++ conflict ++ (← returning g)

/-- Rows that go to a directory, from after the word `DIRECTORY`. -/
def directory (words : String) : Parse (List Piece) := do
  let path ← stringText
  let format ← if ← acceptWords ["STORED", "AS"] then pure (" STORED AS " ++ (← fileFormat))
    else pure ""
  return [.text ("INSERT" ++ words ++ " DIRECTORY '" ++ path ++ "'" ++ format ++ " "),
    .query (← g.query)]

/-- Rows that go to a table or to a directory. -/
def insert : Parse (Insert ⊕ List Piece) := do
  let conflict ← conflictWords
  let priority ← if (← dialect) == .ansi then acceptOneOf ["LOW_PRIORITY", "DELAYED", "HIGH_PRIORITY"]
    else pure none
  let ignore ← permissive (acceptWord "IGNORE")
  let overwrite ← acceptWord "OVERWRITE"
  let into ← acceptWord "INTO"
  let local_ ← acceptWord "LOCAL"
  if ← acceptWord "DIRECTORY" then
    return .inr (← directory g (textIf overwrite " OVERWRITE" ++ textIf local_ " LOCAL"))
  let tableWord ← acceptWord "TABLE"
  let table ← objectName
  let words :=
    if conflict.isEmpty then
      "INSERT " ++ (match priority with
        | some word => word ++ " "
        | none => "") ++
        (if ignore then "IGNORE " else "") ++ (if overwrite then "OVERWRITE " else "") ++
        (if into then "INTO " else "") ++ (if tableWord then "TABLE " else "")
    else "INSERT " ++ conflict ++ "INTO "
  let aliasName ← if (← dialect) == .postgres then afterWord "AS" ident else pure none
  if ← acceptWords ["DEFAULT", "VALUES"] then
    return .inl ⟨words, table, aliasName, [], [], none, [.text "DEFAULT VALUES"], ← insertTail g⟩
  let atSelect := (← atSymbol "(") && (← peek 1).token.keyword == "SELECT"
  let columns ← if atSelect then pure [] else identList true false
  let partition ← if ← (if atSelect then pure false else acceptWord "PARTITION") then
      pure (.text "PARTITION (" :: commaPieces (← parens g.exprs) ++ [.text ") "])
    else pure []
  let source ← g.query
  return .inl ⟨words, table, aliasName, columns, partition, some source, [], ← insertTail g⟩

/-! ## Update and deletion -/

def update : Parse Update := do
  let conflict ← conflictWords
  let table ← g.source
  expectWord "SET"
  let assignments ← commaSep (assignment g)
  let source ← afterWord "FROM" g.source
  let condition ← filter g
  return ⟨"UPDATE " ++ conflict, table, assignments, source.toList, condition, ← returning g⟩

def delete : Parse Delete := do
  let words ←
    if ← acceptWord "FROM" then pure "DELETE FROM "
    else if (← dialect) == .ansi then pure "DELETE "
    else
      let names ← commaSep objectName
      expectWord "FROM"
      pure ("DELETE " ++ commaList (names.map ObjectName.render) ++ " FROM ")
  let targets ← sources g
  let others ← if ← acceptWord "USING" then sources g else pure []
  let condition ← filter g
  let returned ← returning g
  let order ← if ← acceptWords ["ORDER", "BY"] then
      pure (.text " ORDER BY " :: orderPieces (← orderKeys g))
    else pure []
  let limit ← if ← acceptWord "LIMIT" then
      if ← acceptWord "ALL" then pure [] else pure [.text " LIMIT ", .expr (← g.expr)]
    else pure []
  return ⟨words, targets, others, condition, returned ++ order ++ limit⟩

end

end SqlFootprint.Sql.Parse
