import SqlFootprint.Sql.Parser.Alteration
import SqlFootprint.Sql.Parser.Attachment
import SqlFootprint.Sql.Parser.Creation
import SqlFootprint.Sql.Parser.Cursor
import SqlFootprint.Sql.Parser.Merge
import SqlFootprint.Sql.Parser.Removal
import SqlFootprint.Sql.Parser.Setting
import SqlFootprint.Sql.Parser.Show
import SqlFootprint.Sql.Parser.Transfer
import SqlFootprint.Sql.Parser.Upkeep

/-!
# Reading scripts

Whole statements and lists of them. Here the rules are tied together: `Grammar.ofFuel` unfolds
them as often as a text of a given length can ask for, and `parse` reads a text.
-/

namespace SqlFootprint.Sql

namespace Parse

section

variable (g : Grammar)

/-- A definition of an enumeration, which comes before all other forms in its dialect. -/
def enumDefinition : Parse (Option Statement) := do
  if (← dialect) != .postgres then return none
  let name ← attempt do
    expectWords ["CREATE", "TYPE"]
    let name ← objectName
    expectWords ["AS", "ENUM"]
    return name
  match name with
  | some name => return some (← createEnum name)
  | none => return none

/-- An insertion. -/
def insertStatement : Parse Statement := do
  match ← insert g with
  | .inl i => return .insert i
  | .inr parts => return .other parts

/-- An insertion that replaces what is there. -/
def replaceInto : Parse Statement := do
  match ← insertStatement g with
  | .insert i =>
    let words := if i.words.startsWith "INSERT OR" then i.words
      else "REPLACE" ++ (i.words.drop 6).toString
    return .insert { i with words }
  | s => return s

/-- The rule of a statement by its first word, which has been taken. -/
def wordStatement (first : Located) : Parse Statement := do
  let d ← dialect
  match first.token.keyword with
  | "SELECT" | "WITH" | "VALUES" =>
    back
    return .query (← g.query)
  | "INSERT" => insertStatement g
  | "UPDATE" => return .update (← update g)
  | "DELETE" => return .delete (← delete g)
  | "REPLACE" =>
    if d == .ansi then replaceInto g else throw (.unsupportedStatement "REPLACE" (← next))
  | "FLUSH" => if d == .ansi then flush else throw (.unsupportedStatement "FLUSH" (← next))
  | "CREATE" => create g
  | "ALTER" => alter g
  | "DROP" => drop g
  | "TRUNCATE" => truncate g
  | "MERGE" => merge g
  | "COPY" => copy g
  | "UNLOAD" => unload g
  | "LOAD" => extension "LOAD"
  | "ATTACH" => attach g
  | "CACHE" => cache g
  | "UNCACHE" => uncache
  | "MSCK" => repairTable
  | "EXPLAIN" | "DESCRIBE" | "DESC" => explain g first.token.keyword
  | "ANALYZE" => analyze g
  | "BEGIN" => beginTransaction
  | "START" => startTransaction
  | "COMMIT" | "END" => commit
  | "ROLLBACK" => rollback
  | "SAVEPOINT" => return textStatement ("SAVEPOINT " ++ (← ident).render)
  | "RELEASE" => release
  | "SET" => set_ g
  | "SHOW" => show_ g
  | "USE" => return textStatement ("USE " ++ (← objectName).render)
  | "PRAGMA" => pragma
  | "DISCARD" => discard
  | "KILL" => kill
  | "GRANT" => grant
  | "REVOKE" => revoke
  | "PREPARE" => prepare g
  | "EXECUTE" | "EXEC" => execute g
  | "DEALLOCATE" => deallocate
  | "DECLARE" => declare_ g
  | "FETCH" => fetchCursor
  | "CLOSE" => closeCursor
  | "CALL" => callStatement g
  | "ASSERT" => assertion g
  | "COMMENT" => comment
  | keyword =>
    match d, keyword with
    | .postgres, "LISTEN" => return textStatement ("LISTEN " ++ (← ident).render)
    | .postgres, "UNLISTEN" => unlisten
    | .postgres, "NOTIFY" => notify
    | .ansi, "DETACH" => detach
    | .ansi, "INSTALL" => extension "INSTALL"
    | .ansi, "OPTIMIZE" => optimize g
    | _, _ => failAt "an SQL statement" first

def statementRule : Parse Statement := do
  if let some s ← enumDefinition then return s
  let first ← take
  match first.token with
  | .word _ => wordStatement g first
  | .symbol "(" =>
    back
    return .query (← g.query)
  | _ => failAt "an SQL statement" first

end

end Parse

namespace Grammar

/-- A grammar whose rules all fail. -/
def exhausted : Grammar where
  statement := throw .tooDeep
  query := throw .tooDeep
  setExpr _ := throw .tooDeep
  exprAbove _ := throw .tooDeep
  operand := throw .tooDeep
  openType := throw .tooDeep
  columnDef := throw .tooDeep
  factor := throw .tooDeep
  source := throw .tooDeep

/-- The rules, unfolded a number of times. -/
def ofFuel : Nat → Grammar
  | 0 => exhausted
  | n + 1 =>
    { statement := fun r i ↦ Parse.descend (Parse.statementRule (ofFuel n)) r i
      query := fun r i ↦ Parse.descend (Parse.queryRule (ofFuel n)) r i
      setExpr := fun level r i ↦ Parse.setExprRule (ofFuel n) level r i
      exprAbove := fun level r i ↦ Parse.descend (Parse.exprRule (ofFuel n) level) r i
      operand := fun r i ↦ Parse.operandRule (ofFuel n) r i
      openType := fun r i ↦ Parse.typeRule (ofFuel n) r i
      columnDef := fun r i ↦ Parse.columnDef (ofFuel n) r i
      factor := fun r i ↦ Parse.factorRule (ofFuel n) r i
      source := fun r i ↦ Parse.sourceRule (ofFuel n) r i }

end Grammar

/-- Reads the statements of a text. The limit bounds how deep statements, queries and expressions
may be nested. -/
def parse (dialect : Dialect) (limit : Nat) (text : String) :
    Except SyntaxFault (List Statement) := do
  let tokens ← match tokenize dialect text with
    | .ok tokens => pure tokens
    | .error failure => throw (.lexical failure)
  let g := Grammar.ofFuel (16 * (tokens.length + 1))
  (Parse.statements g ⟨dialect, tokens.toArray, limit, false⟩ 0).1

end SqlFootprint.Sql
