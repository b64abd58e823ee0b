import SqlFootprint.Sql.Parser.Query

/-!
# Reading merges

`MERGE`, which brings the rows of one relation into another.
-/

namespace SqlFootprint.Sql.Parse

section

variable (g : Grammar)

/-- What a merge does with a row. -/
def mergeAction (matched : Bool) (kind : String) : Parse (List Piece) := do
  let refuse {α : Type} (word : String) : Parse α :=
    throw (.unsupported (word ++ " is not allowed in a " ++ kind ++ " merge clause")
      .nowhere)
  match ← acceptOneOf ["UPDATE", "INSERT", "DELETE"] with
  | some "UPDATE" =>
    if !matched then refuse "UPDATE"
    expectWord "SET"
    return .text "UPDATE SET " :: assignmentPieces (← commaSep (assignment g))
  | some "DELETE" =>
    if !matched then refuse "DELETE"
    return [.text "DELETE"]
  | some _ =>
    if matched then refuse "INSERT"
    let columns ← identList true false
    let columns := if columns.isEmpty then "" else columnNames columns ++ " "
    if ← permissive (acceptWord "ROW") then return [.text ("INSERT " ++ columns ++ "ROW")]
    expectWord "VALUES"
    return .text ("INSERT " ++ columns) :: (← valueRows g)
  | none =>
    throw (.unsupported "expected UPDATE, DELETE or INSERT in merge clause" .nowhere)

def mergeClause : Parse (Option (List Piece)) := do
  match (← next).token with
  | .endOfInput | .symbol ";" => return none
  | _ =>
    expectWord "WHEN"
    let negated ← acceptWord "NOT"
    expectWord "MATCHED"
    let side ← if !negated then pure ""
      else if ← acceptWords ["BY", "SOURCE"] then pure " BY SOURCE"
      else pure (textIf (← acceptWords ["BY", "TARGET"]) " BY TARGET")
    let kind := negation negated ++ "MATCHED" ++ side
    let condition ← match ← afterWord "AND" g.expr with
      | some e => pure [.text " AND ", .expr e]
      | none => pure []
    expectWord "THEN"
    let action ← mergeAction g (!negated || side == " BY SOURCE") kind
    return some (.text ("WHEN " ++ kind) :: condition ++ .text " THEN " :: action)

def merge : Parse Statement := do
  let into := textIf (← acceptWord "INTO") " INTO"
  let target ← g.factor
  expectWord "USING"
  let source ← g.factor
  expectWord "ON"
  let condition ← g.expr
  let clauses ← many (mergeClause g)
  return .other (.text ("MERGE" ++ into ++ " ") :: .table target :: .text " USING " ::
    .table source :: .text " ON " :: .expr condition :: .text " " ::
    (clauses.intersperse [.text " "]).flatten)

end

end SqlFootprint.Sql.Parse
