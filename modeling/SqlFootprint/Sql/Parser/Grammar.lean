import SqlFootprint.Sql.Parser.Basic

/-!
# The recursive rules

Statements, queries, expressions, types and relations contain each other. A `Grammar` names the
rules that others refer to, so that each family of rules can be written in its own module and the
knot be tied once, in `Sql.Parser.Script`.
-/

namespace SqlFootprint.Sql

/-- The rules that other rules refer to. -/
structure Grammar where
  statement : Parse Statement
  query : Parse Query
  /-- The part of a query that set operations join, up to an operation that binds no tighter. -/
  setExpr : (precedence : Nat) → Parse SetExpr
  /-- An expression, up to an operator that binds no tighter. -/
  exprAbove : (precedence : Nat) → Parse Expr
  /-- An expression without operators on its right. -/
  operand : Parse Expr
  /-- A type, and whether it took a closing bracket of the type around it. -/
  openType : Parse (DataType × Bool)
  /-- A column of a table. -/
  columnDef : Parse ColumnDef
  factor : Parse TableFactor
  source : Parse TableWithJoins

namespace Grammar

/-- A whole expression. -/
def expr (g : Grammar) : Parse Expr := g.exprAbove 0

def exprs (g : Grammar) : Parse (List Expr) := Parse.commaSep g.expr

/-- A type whose brackets are all its own. -/
def type (g : Grammar) : Parse DataType := do
  let (t, excess) ← g.openType
  if excess then
    throw (.bracketAfterType t.render (← Parse.next))
  return t

end Grammar

end SqlFootprint.Sql
