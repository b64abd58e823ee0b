import SqlFootprint.Proofs.Sql.Relations

/-!
# Outlines

The outline of a statement is what is left of it when each query inside it is replaced by its text.
It reads the same as the statement, and holds what belongs to the statement itself. The branches of
a `UNION`, queries in parentheses and nested joins do; what is named in `WITH`, stands in `FROM` or
in an expression, or has its rows inserted, does not.

Clauses that no analysis enters are left as they are.
-/

namespace SqlFootprint.Sql

/-- A query of which only the text is left. -/
def Query.verbatim (q : Query) : Query :=
  ⟨false, [], .other [.text q.render], [], []⟩

mutual

def Expr.outline : Expr → Expr
  | .column path name => .column path name
  | .constant text => .constant text
  | .binary left op right => .binary left.outline op right.outline
  | .unary op operand => .unary op operand.outline
  | .nested inner => .nested inner.outline
  | .cast form operand target format => .cast form operand.outline target format
  | .nullTest operand negated => .nullTest operand.outline negated
  | .distinctTest left negated right => .distinctTest left.outline negated right.outline
  | .quantified left op quantifier right => .quantified left.outline op quantifier right.outline
  | .between operand negated low high =>
    .between operand.outline negated low.outline high.outline
  | .inList operand negated items => .inList operand.outline negated (outlineExprs items)
  | .inQuery operand negated query => .inQuery operand.outline negated query.verbatim
  | .pattern kind operand negated any against escape =>
    .pattern kind operand.outline negated any against.outline escape
  | .existsQuery negated query => .existsQuery negated query.verbatim
  | .subquery query => .subquery query.verbatim
  | .call name parameters arguments within filter nulls window =>
    .call name parameters arguments.outline within (outlineOption filter) nulls window.outline
  | .braced call => .braced call.outline
  | .cases operand conditions results otherwise =>
    .cases (outlineOption operand) (outlineExprs conditions) (outlineExprs results)
      (outlineOption otherwise)
  | .trim side what operand characters =>
    .trim side (outlineOption what) operand.outline (outlineExprs characters)
  | .groupingSets parts => .groupingSets (outlinePieces parts)
  | .template parts => .template (outlinePieces parts)
  | .raw parts => .raw parts

def outlineExprs : List Expr → List Expr
  | [] => []
  | e :: es => e.outline :: outlineExprs es

def outlineOption : Option Expr → Option Expr
  | none => none
  | some e => some e.outline

/-- The expressions among the pieces of a form in outline. -/
def outlinePieces : List Piece → List Piece
  | [] => []
  | .expr e :: ps => .expr e.outline :: outlinePieces ps
  | p :: ps => p :: outlinePieces ps

def Args.outline : Args → Args
  | .none => .none
  | .query q => .query q.verbatim
  | .list treatment items clauses => .list treatment (outlineArgs items) clauses

def outlineArgs : List Arg → List Arg
  | [] => []
  | a :: as => a.outline :: outlineArgs as

def Arg.outline : Arg → Arg
  | .value e => .value e.outline
  | .named name operator (.value e) => .named name operator (.value e.outline)
  | a => a

def Window.outline : Window → Window
  | .none => .none
  | .named name => .named name
  | .spec base partition order frame =>
    .spec base (outlineExprs partition) (outlineKeys order) frame

def outlineKeys : List OrderKey → List OrderKey
  | [] => []
  | k :: ks => k.outline :: outlineKeys ks

def OrderKey.outline : OrderKey → OrderKey
  | .mk expr options => .mk expr.outline options

end

def JoinConstraint.outline : JoinConstraint → JoinConstraint
  | .on e => .on e.outline
  | .usingColumns columns => .usingColumns columns
  | .natural => .natural
  | .none => .none

def JoinOperator.outline : JoinOperator → JoinOperator
  | .inner c => .inner c.outline
  | .left c => .left c.outline
  | .right c => .right c.outline
  | .full c => .full c.outline
  | .cross => .cross
  | .special words matching c => .special words matching c

mutual

def TableFactor.outline : TableFactor → TableFactor
  | .table name arguments aliasName tail => .table name arguments aliasName tail
  | .derived lateral query aliasName => .derived lateral query.verbatim aliasName
  | .nestedJoin joined aliasName => .nestedJoin joined.outline aliasName
  | .special parts aliasName tail => .special parts aliasName tail

def TableWithJoins.outline : TableWithJoins → TableWithJoins
  | ⟨relation, joins⟩ => ⟨relation.outline, outlineJoins joins⟩

def outlineJoins : List Join → List Join
  | [] => []
  | ⟨global, relation, operator⟩ :: js =>
    ⟨global, relation.outline, operator.outline⟩ :: outlineJoins js

end

def Cte.outline (c : Cte) : Cte :=
  { c with query := c.query.verbatim }

def Grouping.outline : Grouping → Grouping
  | .all modifiers => .all modifiers
  | .keys exprs modifiers => .keys (outlineExprs exprs) modifiers

def SelectItem.outline : SelectItem → SelectItem
  | .expr e => .expr e.outline
  | .aliased e aliasName => .aliased e.outline aliasName
  | .wildcard options => .wildcard options
  | .qualifiedWildcard name options => .qualifiedWildcard name options

def Select.outline (s : Select) : Select :=
  { s with
    projection := s.projection.map SelectItem.outline
    sources := s.sources.map TableWithJoins.outline
    filter := outlineOption s.filter
    grouping := s.grouping.outline
    having := outlineOption s.having }

mutual

def Query.outline : Query → Query
  | ⟨recursive, ctes, body, order, tail⟩ =>
    ⟨recursive, ctes.map Cte.outline, body.outline, outlineKeys order, tail⟩

def SetExpr.outline : SetExpr → SetExpr
  | .select s => .select s.outline
  | .query q => .query q.outline
  | .operation op quantifier left right => .operation op quantifier left.outline right.outline
  | .values parts => .values parts
  | .insert i => .insert i
  | .update u => .update u
  | .other parts => .other parts

end

/-! ## Statements -/

/-- Rows that are written out stay. -/
def Insert.outline (i : Insert) : Insert :=
  { i with
    source := i.source.map fun q ↦
      match q.body with
      | .values _ => q
      | _ => q.verbatim }

def Assignment.outline : Assignment → Assignment
  | .mk target value => .mk target value.outline

def Update.outline (u : Update) : Update :=
  { u with
    table := u.table.outline
    assignments := u.assignments.map Assignment.outline
    filter := outlineOption u.filter }

def Delete.outline (d : Delete) : Delete :=
  { d with
    sources := d.sources.map TableWithJoins.outline
    others := d.others.map TableWithJoins.outline
    filter := outlineOption d.filter }

def Statement.outline : Statement → Statement
  | .query q => .query q.outline
  | .insert i => .insert i.outline
  | .update u => .update u.outline
  | .delete d => .delete d.outline
  | .createTable c => .createTable c
  | .other parts => .other parts

/-! ## An outline reads the same -/

theorem Query.render_verbatim (q : Query) : q.verbatim.render = q.render := by
  simp [verbatim, Query.render, SetExpr.render, renderPieces, Piece.render, renderKeys, listClause]

theorem outlineExprs_isEmpty (es : List Expr) : (outlineExprs es).isEmpty = es.isEmpty := by
  cases es with
  | nil => rfl
  | cons e es => rfl

theorem outlineKeys_isEmpty (ks : List OrderKey) : (outlineKeys ks).isEmpty = ks.isEmpty := by
  cases ks with
  | nil => rfl
  | cons k ks => rfl

namespace Expr

theorem render_quantified (left : Expr) (op : Comparison) (quantifier : Quantifier)
    (right : Expr) : (quantified left op quantifier right).render =
      left.render ++ " " ++ op.render ++ " " ++ quantifier.render ++ right.quantifiedText := by
  cases right <;> simp only [render, quantifiedText, String.append_assoc]

theorem quantifiedText_outline {e : Expr} (same : e.outline.render = e.render) :
    e.outline.quantifiedText = e.quantifiedText := by
  cases e with
  | subquery q => rw [outline, quantifiedText, q.render_verbatim, quantifiedText]
  | _ => exact congrArg (fun text ↦ "(" ++ text ++ ")") same

end Expr

mutual

theorem Expr.render_outline : ∀ e : Expr, e.outline.render = e.render
  | .column _ _ => rfl
  | .constant _ => rfl
  | .binary left _ right => by
    simp only [Expr.outline, Expr.render, left.render_outline, right.render_outline]
  | .unary .not operand => by simp only [Expr.outline, Expr.render, operand.render_outline]
  | .unary (.before _) operand => by
    simp only [Expr.outline, Expr.render, operand.render_outline]
  | .unary (.after _) operand => by
    simp only [Expr.outline, Expr.render, operand.render_outline]
  | .nested inner => by simp only [Expr.outline, Expr.render, inner.render_outline]
  | .cast form operand _ _ => by
    cases form <;> simp only [Expr.outline, Expr.render, operand.render_outline]
  | .nullTest operand _ => by simp only [Expr.outline, Expr.render, operand.render_outline]
  | .distinctTest left _ right => by
    simp only [Expr.outline, Expr.render, left.render_outline, right.render_outline]
  | .quantified left _ _ right => by
    rw [Expr.outline, Expr.render_quantified, Expr.render_quantified, left.render_outline,
      Expr.quantifiedText_outline right.render_outline]
  | .between operand _ low high => by
    simp only [Expr.outline, Expr.render, operand.render_outline, low.render_outline,
      high.render_outline]
  | .inList operand _ items => by
    simp only [Expr.outline, Expr.render, operand.render_outline, renderExprs_outline items]
  | .inQuery operand _ query => by
    simp only [Expr.outline, Expr.render, operand.render_outline, query.render_verbatim]
  | .pattern _ operand _ _ against _ => by
    simp only [Expr.outline, Expr.render, operand.render_outline, against.render_outline]
  | .existsQuery _ query => by simp only [Expr.outline, Expr.render, query.render_verbatim]
  | .subquery query => by simp only [Expr.outline, Expr.render, query.render_verbatim]
  | .call _ _ arguments _ filter _ window => by
    simp only [Expr.outline, Expr.render, arguments.render_outline,
      renderOption_outline _ filter, window.render_outline]
  | .braced call => by simp only [Expr.outline, Expr.render, call.render_outline]
  | .cases operand conditions results otherwise => by
    simp only [Expr.outline, Expr.render, renderOption_outline _ operand,
      renderExprs_outline conditions, renderExprs_outline results,
      renderOption_outline _ otherwise]
  | .trim _ what operand characters => by
    simp only [Expr.outline, Expr.render, renderOption_outline _ what, operand.render_outline,
      renderExprs_outline characters]
  | .groupingSets parts => by simp only [Expr.outline, Expr.render, renderPieces_outline parts]
  | .template parts => by simp only [Expr.outline, Expr.render, renderPieces_outline parts]
  | .raw _ => rfl

theorem renderExprs_outline : ∀ es : List Expr, renderExprs (outlineExprs es) = renderExprs es
  | [] => rfl
  | e :: es => by
    simp only [outlineExprs, renderExprs, e.render_outline, renderExprs_outline es]

theorem renderOption_outline (before : String) : ∀ (e : Option Expr) {after : String},
    renderOption before (outlineOption e) after = renderOption before e after
  | none, _ => rfl
  | some e, _ => by simp only [outlineOption, renderOption, e.render_outline]

theorem renderPieces_outline : ∀ ps : List Piece,
    renderPieces (outlinePieces ps) = renderPieces ps
  | [] => rfl
  | .expr e :: ps => by
    simp only [outlinePieces, renderPieces, Piece.render, e.render_outline,
      renderPieces_outline ps]
  | .text _ :: ps => by simp only [outlinePieces, renderPieces, renderPieces_outline ps]
  | .query _ :: ps => by simp only [outlinePieces, renderPieces, renderPieces_outline ps]
  | .table _ :: ps => by simp only [outlinePieces, renderPieces, renderPieces_outline ps]

theorem Args.render_outline : ∀ as : Args, as.outline.render = as.render
  | .none => rfl
  | .query q => by simp only [Args.outline, Args.render, q.render_verbatim]
  | .list _ items _ => by simp only [Args.outline, Args.render, renderArgs_outline items]

theorem renderArgs_outline : ∀ as : List Arg, renderArgs (outlineArgs as) = renderArgs as
  | [] => rfl
  | a :: as => by simp only [outlineArgs, renderArgs, a.render_outline, renderArgs_outline as]

theorem Arg.render_outline : ∀ a : Arg, a.outline.render = a.render
  | .value e => by simp only [Arg.outline, Arg.render, e.render_outline]
  | .wildcard _ => rfl
  | .named _ _ (.value e) => by simp only [Arg.outline, Arg.render, e.render_outline]
  | .named _ _ (.wildcard _) => rfl
  | .named _ _ (.named _ _ _) => rfl
  | .named _ _ (.keyed _ _ _) => rfl
  | .keyed _ _ _ => rfl

theorem Window.render_outline : ∀ w : Window, w.outline.render = w.render
  | .none => rfl
  | .named _ => rfl
  | .spec _ partition order _ => by
    simp only [Window.outline, Window.render, renderExprs_outline partition,
      renderKeys_outline order, outlineExprs_isEmpty, outlineKeys_isEmpty]

theorem renderKeys_outline : ∀ ks : List OrderKey, renderKeys (outlineKeys ks) = renderKeys ks
  | [] => rfl
  | k :: ks => by simp only [outlineKeys, renderKeys, k.render_outline, renderKeys_outline ks]

theorem OrderKey.render_outline : ∀ k : OrderKey, k.outline.render = k.render
  | .mk expr _ => by simp only [OrderKey.outline, OrderKey.render, expr.render_outline]

end

theorem JoinConstraint.start_outline (c : JoinConstraint) : c.outline.start = c.start := by
  cases c with
  | on e => rfl
  | usingColumns columns => rfl
  | natural => rfl
  | none => rfl

theorem JoinConstraint.finish_outline (c : JoinConstraint) : c.outline.finish = c.finish := by
  cases c with
  | on e => simp only [JoinConstraint.outline, JoinConstraint.finish, e.render_outline]
  | usingColumns columns => rfl
  | natural => rfl
  | none => rfl

theorem Join.render_outline {global : Bool} {relation : TableFactor} {operator : JoinOperator}
    (same : relation.outline.render = relation.render) :
    Join.render ⟨global, relation.outline, operator.outline⟩ =
      Join.render ⟨global, relation, operator⟩ := by
  cases operator <;>
    simp only [JoinOperator.outline, Join.render, same, JoinConstraint.start_outline,
      JoinConstraint.finish_outline]

mutual

theorem TableFactor.render_outline : ∀ t : TableFactor, t.outline.render = t.render
  | .table _ _ _ _ => rfl
  | .derived _ query _ => by
    simp only [TableFactor.outline, TableFactor.render, query.render_verbatim]
  | .nestedJoin joined _ => by
    simp only [TableFactor.outline, TableFactor.render, joined.render_outline]
  | .special _ _ _ => rfl

theorem TableWithJoins.render_outline : ∀ t : TableWithJoins, t.outline.render = t.render
  | ⟨relation, joins⟩ => by
    simp only [TableWithJoins.outline, TableWithJoins.render, relation.render_outline,
      renderJoins_outline joins]

theorem renderJoins_outline : ∀ js : List Join, renderJoins (outlineJoins js) = renderJoins js
  | [] => rfl
  | ⟨_, relation, _⟩ :: js => by
    rw [outlineJoins, renderJoins, Join.render_outline relation.render_outline,
      renderJoins_outline js, renderJoins]

end

/-! ## An outline says the same -/

namespace Expr

theorem columnRef?_outline (e : Expr) : e.outline.columnRef? = e.columnRef? := by
  fun_induction Expr.columnRef? e with
  | case1 path name => rfl
  | case2 inner ih => rw [outline, columnRef?, ih]
  | case3 e notColumn notNested =>
    cases e with
    | column path name => exact absurd rfl (notColumn path name)
    | nested inner => exact absurd rfl (notNested inner)
    | _ => rfl

theorem equiJoin?_outline (e : Expr) : e.outline.equiJoin? = e.equiJoin? := by
  fun_induction Expr.equiJoin? e with
  | case1 inner ih => rw [outline, equiJoin?, ih]
  | case2 left right l r hl hr =>
    rw [outline, equiJoin?, columnRef?_outline, columnRef?_outline, hl, hr]
  | case3 left right none =>
    rw [outline, equiJoin?, columnRef?_outline, columnRef?_outline]
    split
    · exact absurd ‹_› (none _ _ ‹_›)
    · rfl
  | case4 e notNested notEq =>
    cases e with
    | nested inner => exact absurd rfl (notNested inner)
    | binary left op right =>
      cases op with
      | compare c =>
        cases c with
        | eq => exact absurd rfl (notEq left right)
        | _ => rfl
      | _ => rfl
    | _ => rfl

theorem operandText_outline (e : Expr) : e.outline.operandText = e.operandText := by
  rw [operandText, columnRef?_outline, render_outline, operandText]

theorem condition?_outline (e : Expr) : e.outline.condition? = e.condition? := by
  cases e with
  | binary left op right =>
    cases op with
    | compare c => simp only [outline, condition?, operandText_outline]
    | _ => rfl
  | nullTest operand negated => simp only [outline, condition?, operandText_outline]
  | distinctTest left negated right => simp only [outline, condition?, operandText_outline]
  | quantified left op quantifier right =>
    simp only [outline, condition?, operandText_outline,
      quantifiedText_outline right.render_outline]
  | between operand negated low high =>
    simp only [outline, condition?, operandText_outline, render_outline]
  | inList operand negated items =>
    simp only [outline, condition?, operandText_outline, renderExprs_outline]
  | pattern kind operand negated any against escape =>
    cases kind <;> simp only [outline, condition?, operandText_outline, render_outline]
  | _ => rfl

end Expr

end SqlFootprint.Sql
