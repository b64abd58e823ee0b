import SqlFootprint.Extraction.Scope

/-!
# Conditions

The leaves of a `WHERE` clause as text. An operand that is a column stands without its qualifier.
-/

namespace SqlFootprint

/-- How an expression is walked: the role of its columns, and whether its leaves are conditions. -/
structure Mode where
  role : Role
  conditions : Bool := false
deriving DecidableEq, Repr

namespace Mode

/-- The mode of a `WHERE` clause. -/
def predicate : Mode := ⟨.filtered, true⟩

def mention : Mode := ⟨.mentioned, false⟩

/-- The mode of the operands of a leaf: the same role, but no conditions. -/
def operand (m : Mode) : Mode := { m with conditions := false }

end Mode

namespace Walk

/-- The walk of a negated operand. If it adds a single condition, that one is negated; several
hold no longer one by one, so they are dropped. -/
def negated (w : Walk) : Walk := fun r s ↦
  let t := w r s
  let count := s.footprint.conditions.length
  let kept := t.footprint.conditions.take count
  t.edit fun f ↦ { f with
    conditions := match t.footprint.conditions.drop count with
      | [leaf] => kept ++ ["NOT " ++ leaf]
      | _ => kept }

end Walk

namespace Sql

namespace ObjectName

/-- The table that a dotted name ends with, as a use. -/
def toTableUse (name : ObjectName) (aliasName : Option String) : TableUse :=
  match name.reverse with
  | [] => ⟨"", aliasName, none⟩
  | [table] => ⟨table.text, aliasName, none⟩
  | table :: schema :: _ => ⟨table.text, aliasName, some schema.text⟩

/-- The column that a dotted name ends with. -/
def columnRef? (name : ObjectName) : Option ColumnRef :=
  match name.reverse with
  | [] => none
  | [column] => some ⟨none, column.text⟩
  | column :: table :: _ => some ⟨some table.text, column.text⟩

end ObjectName

namespace Expr

/-- The column that an expression is, apart from parentheses. -/
def columnRef? : Expr → Option ColumnRef
  | .column path name => some ⟨path.getLast?.map Ident.text, name.text⟩
  | .nested inner => inner.columnRef?
  | _ => none

/-- The two columns of a single equality, apart from parentheses. -/
def equiJoin? : Expr → Option (ColumnRef × ColumnRef)
  | .nested inner => inner.equiJoin?
  | .binary left (.compare .eq) right =>
    match left.columnRef?, right.columnRef? with
    | some l, some r => some (l, r)
    | _, _ => none
  | _ => none

/-- An operand of a condition. -/
def operandText (e : Expr) : String :=
  match e.columnRef? with
  | some c => c.column
  | none => e.render

/-- The right side of a quantified comparison, in one pair of parentheses. -/
def quantifiedText : Expr → String
  | .subquery q => "(" ++ q.render ++ ")"
  | e => "(" ++ e.render ++ ")"

/-- The condition that an expression is, if it is a leaf that makes one. -/
def condition? : Expr → Option String
  | .binary left (.compare c) right =>
    some (left.operandText ++ " " ++ c.render ++ " " ++ right.operandText)
  | .nullTest operand negated =>
    some (operand.operandText ++ " IS " ++ negation negated ++ "NULL")
  | .distinctTest left negated right =>
    some (left.operandText ++ " IS " ++ negation negated ++ "DISTINCT FROM " ++ right.operandText)
  | .quantified left op quantifier right =>
    some (left.operandText ++ " " ++ op.render ++ " " ++ quantifier.render ++ right.quantifiedText)
  | .between operand negated low high =>
    some (operand.operandText ++ " " ++ negation negated ++ "BETWEEN " ++ low.render ++ " AND " ++
      high.render)
  | .inList operand negated items =>
    some (operand.operandText ++ " " ++ negation negated ++ "IN (" ++
      commaList (renderExprs items) ++ ")")
  | .pattern .like operand negated _ against _ =>
    some (operand.operandText ++ " " ++ negation negated ++ "LIKE " ++ against.render)
  | .pattern .ilike operand negated _ against _ =>
    some (operand.operandText ++ " " ++ negation negated ++ "ILIKE " ++ against.render)
  | _ => none

end Expr

end Sql

namespace Mode

/-- Adds the condition of a leaf, in a mode that collects them. -/
def leaf (m : Mode) (e : Sql.Expr) : Walk := fun _ s ↦
  if m.conditions then
    match e.condition? with
    | some text => s.edit (·.addCondition text)
    | none => s
  else s

end Mode

end SqlFootprint
