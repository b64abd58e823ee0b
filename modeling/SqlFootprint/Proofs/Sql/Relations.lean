import SqlFootprint.Extraction.Condition

/-!
# The relations of a statement

The relations that a statement names in `FROM`, `JOIN`, `USING` or `INTO` or as the target of an
update, each as the table use that it stands for, in the order in which they are read: a nested
query comes before the name that it is given. They are read off the syntax alone.

Clauses that are kept as mere pieces are not looked into, such as `LIMIT`, `RETURNING` or
`DISTINCT ON`, and neither are rows of `VALUES`, writes inside a query, the order of arguments, and
the sources of an update apart from its target.
-/

namespace SqlFootprint.Sql

/-- The name that is given to a derived table or a nested join. -/
def TableAlias.toTableUse (a : TableAlias) : TableUse :=
  ⟨a.name.text, none, none⟩

mutual

def Expr.relations : Expr → List TableUse
  | .column _ _ | .constant _ | .raw _ => []
  | .binary left _ right => left.relations ++ right.relations
  | .unary _ operand | .nested operand | .cast _ operand _ _ | .nullTest operand _ =>
    operand.relations
  | .distinctTest left _ right | .quantified left _ _ right => left.relations ++ right.relations
  | .between operand _ low high => operand.relations ++ (low.relations ++ high.relations)
  | .inList operand _ items => operand.relations ++ relationsOfExprs items
  | .inQuery operand _ query => operand.relations ++ query.relations
  | .pattern _ operand _ _ against _ => operand.relations ++ against.relations
  | .existsQuery _ query | .subquery query => query.relations
  | .call _ _ arguments _ filter _ window =>
    arguments.relations ++ (relationsOfOption filter ++ window.relations)
  | .braced call => call.relations
  | .cases operand conditions results otherwise =>
    relationsOfOption operand ++ (relationsOfExprs conditions ++ (relationsOfExprs results ++
      relationsOfOption otherwise))
  | .trim _ what operand characters =>
    operand.relations ++ (relationsOfOption what ++ relationsOfExprs characters)
  | .groupingSets parts | .template parts => relationsOfPieces parts

def relationsOfExprs : List Expr → List TableUse
  | [] => []
  | e :: es => e.relations ++ relationsOfExprs es

def relationsOfOption : Option Expr → List TableUse
  | none => []
  | some e => e.relations

/-- The relations of the expressions among the pieces of a form. -/
def relationsOfPieces : List Piece → List TableUse
  | [] => []
  | .expr e :: ps => e.relations ++ relationsOfPieces ps
  | _ :: ps => relationsOfPieces ps

def Args.relations : Args → List TableUse
  | .none => []
  | .query q => q.relations
  | .list _ items _ => relationsOfArgs items

def relationsOfArgs : List Arg → List TableUse
  | [] => []
  | a :: as => a.relations ++ relationsOfArgs as

def Arg.relations : Arg → List TableUse
  | .value e | .named _ _ (.value e) => e.relations
  | .wildcard _ | .named _ _ _ | .keyed _ _ _ => []

def Window.relations : Window → List TableUse
  | .none | .named _ => []
  | .spec _ partition order _ => relationsOfExprs partition ++ relationsOfKeys order

def relationsOfKeys : List OrderKey → List TableUse
  | [] => []
  | k :: ks => k.relations ++ relationsOfKeys ks

def OrderKey.relations : OrderKey → List TableUse
  | .mk expr _ => expr.relations

def Query.relations : Query → List TableUse
  | ⟨_, ctes, body, order, _⟩ =>
    relationsOfCtes ctes ++ (body.relations ++ relationsOfKeys order)

def relationsOfCtes : List Cte → List TableUse
  | [] => []
  | c :: cs => c.relations ++ relationsOfCtes cs

def Cte.relations : Cte → List TableUse
  | ⟨aliasName, _, query, _⟩ => query.relations ++ [aliasName.toTableUse]

def SetExpr.relations : SetExpr → List TableUse
  | .select s => s.relations
  | .query q => q.relations
  | .operation _ _ left right => left.relations ++ right.relations
  | .values _ | .insert _ | .update _ | .other _ => []

def Select.relations : Select → List TableUse
  | ⟨_, projection, _, sources, _, filter, grouping, _, having, _⟩ =>
    relationsOfSources sources ++ (relationsOfItems projection ++ (relationsOfOption filter ++
      (grouping.relations ++ relationsOfOption having)))

def Grouping.relations : Grouping → List TableUse
  | .all _ => []
  | .keys exprs _ => relationsOfExprs exprs

def relationsOfItems : List SelectItem → List TableUse
  | [] => []
  | i :: is => i.relations ++ relationsOfItems is

def SelectItem.relations : SelectItem → List TableUse
  | .expr e | .aliased e _ => e.relations
  | .wildcard _ | .qualifiedWildcard _ _ => []

def relationsOfSources : List TableWithJoins → List TableUse
  | [] => []
  | t :: ts => t.relations ++ relationsOfSources ts

def TableWithJoins.relations : TableWithJoins → List TableUse
  | ⟨relation, joins⟩ => relation.relations ++ relationsOfJoins joins

def relationsOfJoins : List Join → List TableUse
  | [] => []
  | ⟨_, relation, operator⟩ :: js =>
    relation.relations ++ (operator.relations ++ relationsOfJoins js)

def JoinOperator.relations : JoinOperator → List TableUse
  | .inner c | .left c | .right c | .full c | .special _ _ c => c.relations
  | .cross => []

def JoinConstraint.relations : JoinConstraint → List TableUse
  | .on e => e.relations
  | .usingColumns _ | .natural | .none => []

/-- The relations of an item of `FROM`. One of another kind has them anywhere in its clauses. -/
def TableFactor.relations : TableFactor → List TableUse
  | .table name _ aliasName _ => [name.toTableUse (aliasName.map (·.name.text))]
  | .derived _ query aliasName =>
    query.relations ++ aliasName.toList.map TableAlias.toTableUse
  | .nestedJoin joined aliasName =>
    joined.relations ++ aliasName.toList.map TableAlias.toTableUse
  | .special parts aliasName tail =>
    relationsOfClauses parts ++ (aliasName.toList.map TableAlias.toTableUse ++
      relationsOfClauses tail)

/-- The relations of all that some clauses surround. -/
def relationsOfClauses : List Piece → List TableUse
  | [] => []
  | p :: ps => p.relations ++ relationsOfClauses ps

def Piece.relations : Piece → List TableUse
  | .text _ => []
  | .expr e => e.relations
  | .query q => q.relations
  | .table t => t.relations

end

/-! ## Statements -/

/-- The relations of the rows that are inserted. Rows that are written out have none. -/
def Insert.sourceRelations (i : Insert) : List TableUse :=
  match i.source with
  | none => []
  | some q =>
    match q.body with
    | .values _ => []
    | _ => q.relations

def Insert.relations (i : Insert) : List TableUse :=
  i.table.toTableUse (i.aliasName.map Ident.text) :: i.sourceRelations

def Assignment.relations : Assignment → List TableUse
  | .mk _ value => value.relations

def Update.relations (u : Update) : List TableUse :=
  u.table.relations ++ (u.assignments.flatMap Assignment.relations ++ relationsOfOption u.filter)

def Delete.relations (d : Delete) : List TableUse :=
  relationsOfSources d.sources ++ (relationsOfSources d.others ++ relationsOfOption d.filter)

/-- The relations of a statement. Only statements that read or write rows have any. -/
def Statement.relations : Statement → List TableUse
  | .query q => q.relations
  | .insert i => i.relations
  | .update u => u.relations
  | .delete d => d.relations
  | .createTable _ | .other _ => []

/-! ## Plain queries -/

/-- `SELECT items FROM sources WHERE filter`. -/
def Query.plain (items : List SelectItem) (sources : List TableWithJoins)
    (filter : Option Expr := none) : Query :=
  ⟨false, [], .select ⟨[], items, [], sources, [], filter, .keys [] "", [], none, []⟩, [], []⟩

/-- A table in `FROM`, perhaps under an alias. -/
def TableWithJoins.named (name : ObjectName) (aliasName : Option String := none) :
    TableWithJoins :=
  ⟨.table name [] (aliasName.map fun a ↦ ⟨⟨a, none⟩, []⟩) [], []⟩

/-- `SELECT a FROM s.t WHERE a IN (SELECT b FROM u)`. -/
def Query.sample : Query :=
  .plain [.expr (.column [] ⟨"a", none⟩)] [.named [⟨"s", none⟩, ⟨"t", none⟩]]
    (some (.inQuery (.column [] ⟨"a", none⟩) false
      (.plain [.expr (.column [] ⟨"b", none⟩)] [.named [⟨"u", none⟩]])))

/-! ## References have no relations -/

theorem Expr.relations_of_columnRef? {e : Expr} {c : ColumnRef} (h : e.columnRef? = some c) :
    e.relations = [] := by
  fun_induction Expr.columnRef? e with
  | case1 path name => rw [Expr.relations]
  | case2 inner ih => rw [Expr.relations, ih h]
  | case3 => cases h

/-- A single equality of columns holds no query. -/
theorem Expr.relations_of_equiJoin? {e : Expr} {p : ColumnRef × ColumnRef}
    (h : e.equiJoin? = some p) : e.relations = [] := by
  fun_induction Expr.equiJoin? e with
  | case1 inner ih => rw [Expr.relations, ih h]
  | case2 left right l r hl hr =>
    rw [Expr.relations, relations_of_columnRef? hl, relations_of_columnRef? hr, List.append_nil]
  | case3 => cases h
  | case4 => cases h

end SqlFootprint.Sql
