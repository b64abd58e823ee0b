import SqlFootprint.Proofs.Sql.Outline

/-!
# The letter case of references

`foldRefs` writes every reference to a column in lower case, as far as the letters of ASCII go: the
column and what qualifies it, the columns that rows are inserted into, the targets of assignments,
the columns of `USING` and the qualifier of a wildcard. It does so everywhere in a statement, also
in nested queries and in clauses that no analysis enters, the fixed texts of which may hold names.

Two statements differ in no more than the case of references if they are the same in lower case.
-/

namespace SqlFootprint.Sql

open Text (foldAscii)

def Ident.fold (i : Ident) : Ident :=
  { i with text := foldAscii i.text }

def AssignTarget.fold : AssignTarget → AssignTarget
  | .column name => .column (name.map Ident.fold)
  | .tuple names => .tuple (names.map fun name ↦ name.map Ident.fold)

mutual

def Expr.foldRefs : Expr → Expr
  | .column path name => .column (path.map Ident.fold) name.fold
  | .constant text => .constant text
  | .binary left op right => .binary left.foldRefs op right.foldRefs
  | .unary op operand => .unary op operand.foldRefs
  | .nested inner => .nested inner.foldRefs
  | .cast form operand target format => .cast form operand.foldRefs target format
  | .nullTest operand negated => .nullTest operand.foldRefs negated
  | .distinctTest left negated right => .distinctTest left.foldRefs negated right.foldRefs
  | .quantified left op quantifier right =>
    .quantified left.foldRefs op quantifier right.foldRefs
  | .between operand negated low high =>
    .between operand.foldRefs negated low.foldRefs high.foldRefs
  | .inList operand negated items => .inList operand.foldRefs negated (foldExprs items)
  | .inQuery operand negated query => .inQuery operand.foldRefs negated query.foldRefs
  | .pattern kind operand negated any against escape =>
    .pattern kind operand.foldRefs negated any against.foldRefs escape
  | .existsQuery negated query => .existsQuery negated query.foldRefs
  | .subquery query => .subquery query.foldRefs
  | .call name parameters arguments within filter nulls window =>
    .call name parameters.foldRefs arguments.foldRefs (foldKeys within) (foldOption filter) nulls
      window.foldRefs
  | .braced call => .braced call.foldRefs
  | .cases operand conditions results otherwise =>
    .cases (foldOption operand) (foldExprs conditions) (foldExprs results) (foldOption otherwise)
  | .trim side what operand characters =>
    .trim side (foldOption what) operand.foldRefs (foldExprs characters)
  | .groupingSets parts => .groupingSets (foldPieces parts)
  | .template parts => .template (foldPieces parts)
  | .raw parts => .raw (foldPieces parts)

def foldExprs : List Expr → List Expr
  | [] => []
  | e :: es => e.foldRefs :: foldExprs es

def foldOption : Option Expr → Option Expr
  | none => none
  | some e => some e.foldRefs

def Piece.foldRefs : Piece → Piece
  | .text s => .text (foldAscii s)
  | .expr e => .expr e.foldRefs
  | .query q => .query q.foldRefs
  | .table t => .table t.foldRefs

def foldPieces : List Piece → List Piece
  | [] => []
  | p :: ps => p.foldRefs :: foldPieces ps

def Args.foldRefs : Args → Args
  | .none => .none
  | .query q => .query q.foldRefs
  | .list treatment items clauses => .list treatment (foldArgs items) (foldPieces clauses)

def foldArgs : List Arg → List Arg
  | [] => []
  | a :: as => a.foldRefs :: foldArgs as

def Arg.foldRefs : Arg → Arg
  | .value e => .value e.foldRefs
  | .wildcard qualifier => .wildcard (qualifier.map Ident.fold)
  | .named name operator arg => .named name operator arg.foldRefs
  | .keyed key operator arg => .keyed key.foldRefs operator arg.foldRefs

def Window.foldRefs : Window → Window
  | .none => .none
  | .named name => .named name
  | .spec base partition order frame =>
    .spec base (foldExprs partition) (foldKeys order) (foldPieces frame)

def foldKeys : List OrderKey → List OrderKey
  | [] => []
  | k :: ks => k.foldRefs :: foldKeys ks

def OrderKey.foldRefs : OrderKey → OrderKey
  | .mk expr options => .mk expr.foldRefs (foldPieces options)

def Query.foldRefs : Query → Query
  | ⟨recursive, ctes, body, order, tail⟩ =>
    ⟨recursive, foldCtes ctes, body.foldRefs, foldKeys order, foldPieces tail⟩

def foldCtes : List Cte → List Cte
  | [] => []
  | c :: cs => c.foldRefs :: foldCtes cs

def Cte.foldRefs : Cte → Cte
  | ⟨aliasName, mode, query, after⟩ => ⟨aliasName, mode, query.foldRefs, after⟩

def SetExpr.foldRefs : SetExpr → SetExpr
  | .select s => .select s.foldRefs
  | .query q => .query q.foldRefs
  | .operation op quantifier left right => .operation op quantifier left.foldRefs right.foldRefs
  | .values parts => .values (foldPieces parts)
  | .insert i => .insert i.foldRefs
  | .update u => .update u.foldRefs
  | .other parts => .other (foldPieces parts)

def Select.foldRefs : Select → Select
  | ⟨head, projection, into, sources, views, filter, grouping, layout, having, tail⟩ =>
    ⟨foldPieces head, foldItems projection, foldPieces into, foldSources sources,
      foldPieces views, foldOption filter, grouping.foldRefs, foldPieces layout,
      foldOption having, foldPieces tail⟩

def Grouping.foldRefs : Grouping → Grouping
  | .all modifiers => .all modifiers
  | .keys exprs modifiers => .keys (foldExprs exprs) modifiers

def foldItems : List SelectItem → List SelectItem
  | [] => []
  | i :: is => i.foldRefs :: foldItems is

def SelectItem.foldRefs : SelectItem → SelectItem
  | .expr e => .expr e.foldRefs
  | .aliased e aliasName => .aliased e.foldRefs aliasName
  | .wildcard options => .wildcard (foldPieces options)
  | .qualifiedWildcard name options =>
    .qualifiedWildcard (name.map Ident.fold) (foldPieces options)

def foldSources : List TableWithJoins → List TableWithJoins
  | [] => []
  | t :: ts => t.foldRefs :: foldSources ts

def TableWithJoins.foldRefs : TableWithJoins → TableWithJoins
  | ⟨relation, joins⟩ => ⟨relation.foldRefs, foldJoins joins⟩

def foldJoins : List Join → List Join
  | [] => []
  | j :: js => j.foldRefs :: foldJoins js

def Join.foldRefs : Join → Join
  | ⟨global, relation, operator⟩ => ⟨global, relation.foldRefs, operator.foldRefs⟩

def JoinOperator.foldRefs : JoinOperator → JoinOperator
  | .inner c => .inner c.foldRefs
  | .left c => .left c.foldRefs
  | .right c => .right c.foldRefs
  | .full c => .full c.foldRefs
  | .cross => .cross
  | .special words matching c => .special words (foldPieces matching) c.foldRefs

def JoinConstraint.foldRefs : JoinConstraint → JoinConstraint
  | .on e => .on e.foldRefs
  | .usingColumns columns => .usingColumns (columns.map Ident.fold)
  | .natural => .natural
  | .none => .none

def TableFactor.foldRefs : TableFactor → TableFactor
  | .table name arguments aliasName tail =>
    .table name (foldPieces arguments) aliasName (foldPieces tail)
  | .derived lateral query aliasName => .derived lateral query.foldRefs aliasName
  | .nestedJoin joined aliasName => .nestedJoin joined.foldRefs aliasName
  | .special parts aliasName tail => .special (foldPieces parts) aliasName (foldPieces tail)

def Insert.foldRefs : Insert → Insert
  | ⟨words, table, aliasName, columns, partition, source, content, tail⟩ =>
    ⟨words, table, aliasName, columns.map Ident.fold, foldPieces partition, foldSource source,
      foldPieces content, foldPieces tail⟩

def foldSource : Option Query → Option Query
  | none => none
  | some q => some q.foldRefs

def Update.foldRefs : Update → Update
  | ⟨words, table, assignments, sources, filter, tail⟩ =>
    ⟨words, table.foldRefs, foldAssignments assignments, foldSources sources, foldOption filter,
      foldPieces tail⟩

def foldAssignments : List Assignment → List Assignment
  | [] => []
  | a :: as => a.foldRefs :: foldAssignments as

def Assignment.foldRefs : Assignment → Assignment
  | .mk target value => .mk target.fold value.foldRefs

end

/-! ## Statements -/

def Delete.foldRefs (d : Delete) : Delete :=
  { d with
    sources := foldSources d.sources
    others := foldSources d.others
    filter := foldOption d.filter
    tail := foldPieces d.tail }

def ColumnOption.foldRefs : ColumnOption → ColumnOption
  | .notNull => .notNull
  | .primaryKey tail => .primaryKey tail
  | .references parts => .references (foldPieces parts)
  | .other parts => .other (foldPieces parts)

def ColumnDef.foldRefs (c : ColumnDef) : ColumnDef :=
  { c with options := c.options.map fun (name, option) ↦ (name, option.foldRefs) }

def TableConstraint.foldRefs : TableConstraint → TableConstraint
  | .primaryKey before columns after => .primaryKey before (columns.map Ident.fold) after
  | .other parts => .other (foldPieces parts)

/-- The columns of a table are declared and keep their case; a constraint refers to them. -/
def CreateTable.foldRefs (c : CreateTable) : CreateTable :=
  { c with
    columns := c.columns.map ColumnDef.foldRefs
    constraints := c.constraints.map TableConstraint.foldRefs
    tail := foldPieces c.tail }

def Statement.foldRefs : Statement → Statement
  | .query q => .query q.foldRefs
  | .insert i => .insert i.foldRefs
  | .update u => .update u.foldRefs
  | .delete d => .delete d.foldRefs
  | .createTable c => .createTable c.foldRefs
  | .other parts => .other (foldPieces parts)

/-! ## Lower case makes no difference to the form of an expression -/

end Sql

def ColumnRef.fold (c : ColumnRef) : ColumnRef :=
  ⟨c.qualifier.map Text.foldAscii, Text.foldAscii c.column⟩

namespace Sql

open Text (foldAscii)

namespace Expr

theorem columnRef?_foldRefs (e : Expr) : e.foldRefs.columnRef? = e.columnRef?.map ColumnRef.fold := by
  fun_induction Expr.columnRef? e with
  | case1 path name =>
    rw [foldRefs, columnRef?, List.getLast?_map, Option.map_map]
    simp only [Option.map_some, ColumnRef.fold, Option.map_map]
    rfl
  | case2 inner ih => rw [foldRefs, columnRef?, ih]
  | case3 e notColumn notNested =>
    cases e with
    | column path name => exact absurd rfl (notColumn path name)
    | nested inner => exact absurd rfl (notNested inner)
    | _ => rfl

theorem equiJoin?_foldRefs (e : Expr) :
    e.foldRefs.equiJoin? = e.equiJoin?.map (Prod.map ColumnRef.fold ColumnRef.fold) := by
  fun_induction Expr.equiJoin? e with
  | case1 inner ih => rw [foldRefs, equiJoin?, ih]
  | case2 left right l r hl hr =>
    rw [foldRefs, equiJoin?, columnRef?_foldRefs, columnRef?_foldRefs, hl, hr]
    rfl
  | case3 left right none =>
    rw [foldRefs, equiJoin?, columnRef?_foldRefs, columnRef?_foldRefs]
    split
    · obtain ⟨l, hl, -⟩ := Option.map_eq_some_iff.1 ‹left.columnRef?.map _ = _›
      obtain ⟨r, hr, -⟩ := Option.map_eq_some_iff.1 ‹right.columnRef?.map _ = _›
      exact absurd hr (none l r hl)
    · rfl
  | case4 e notNested notEq =>
    cases e with
    | nested inner => exact absurd rfl (notNested inner)
    | binary left op right =>
      cases op with
      | compare c =>
        cases c with
        | eq => exact absurd rfl (notEq left right)
        | _ => rfl
      | _ => rfl
    | _ => rfl

theorem isSome_condition?_foldRefs (e : Expr) :
    e.foldRefs.condition?.isSome = e.condition?.isSome := by
  cases e with
  | binary left op right => cases op <;> rfl
  | pattern kind operand negated any against escape => cases kind <;> rfl
  | _ => rfl

end Expr

theorem ObjectName.columnRef?_fold (name : ObjectName) :
    ObjectName.columnRef? (name.map Ident.fold) = name.columnRef?.map ColumnRef.fold := by
  unfold ObjectName.columnRef?
  rw [← List.map_reverse]
  match name.reverse with
  | [] => rfl
  | [_] => rfl
  | _ :: _ :: _ => rfl

/-- `SELECT q.c FROM users AS u WHERE EXISTS (SELECT d FROM orders WHERE q.c = d)`, in a spelling of
its references. -/
def Query.spelled (q c d : String) : Query :=
  .plain [.expr (.column [⟨q, none⟩] ⟨c, none⟩)] [.named [⟨"users", none⟩] (some "u")]
    (some (.existsQuery false
      (.plain [.expr (.column [] ⟨d, none⟩)] [.named [⟨"orders", none⟩]]
        (some (.binary (.column [⟨q, none⟩] ⟨c, none⟩) (.compare .eq) (.column [] ⟨d, none⟩))))))

theorem Query.foldRefs_spelled (q c d : String) :
    (spelled q c d).foldRefs = spelled (foldAscii q) (foldAscii c) (foldAscii d) :=
  rfl

end SqlFootprint.Sql
