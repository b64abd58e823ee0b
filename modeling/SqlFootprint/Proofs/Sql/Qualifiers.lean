import SqlFootprint.Proofs.Sql.Relations

/-!
# The qualifiers in a query

The names that qualify the columns and wildcards of a query, nested queries included, in the order
in which they are read. Of a name in several parts it is the one right before the column. They are
read off the syntax alone.

As with the relations of a statement, clauses that are kept as mere pieces are not looked into, and
neither are writes inside a query: no qualifier is looked up there.
-/

namespace SqlFootprint.Sql

namespace ObjectName

/-- The last part of a name, if there is any. -/
def qualifier? (name : ObjectName) : Option String :=
  name.getLast?.map Ident.text

end ObjectName

mutual

def Expr.qualifiers : Expr → List String
  | .column path _ => (ObjectName.qualifier? path).toList
  | .constant _ | .raw _ => []
  | .binary left _ right => left.qualifiers ++ right.qualifiers
  | .unary _ operand | .nested operand | .cast _ operand _ _ | .nullTest operand _ =>
    operand.qualifiers
  | .distinctTest left _ right | .quantified left _ _ right => left.qualifiers ++ right.qualifiers
  | .between operand _ low high => operand.qualifiers ++ (low.qualifiers ++ high.qualifiers)
  | .inList operand _ items => operand.qualifiers ++ qualifiersOfExprs items
  | .inQuery operand _ query => operand.qualifiers ++ query.qualifiers
  | .pattern _ operand _ _ against _ => operand.qualifiers ++ against.qualifiers
  | .existsQuery _ query | .subquery query => query.qualifiers
  | .call _ _ arguments _ filter _ window =>
    arguments.qualifiers ++ (qualifiersOfOption filter ++ window.qualifiers)
  | .braced call => call.qualifiers
  | .cases operand conditions results otherwise =>
    qualifiersOfOption operand ++ (qualifiersOfExprs conditions ++ (qualifiersOfExprs results ++
      qualifiersOfOption otherwise))
  | .trim _ what operand characters =>
    operand.qualifiers ++ (qualifiersOfOption what ++ qualifiersOfExprs characters)
  | .groupingSets parts | .template parts => qualifiersOfPieces parts

def qualifiersOfExprs : List Expr → List String
  | [] => []
  | e :: es => e.qualifiers ++ qualifiersOfExprs es

def qualifiersOfOption : Option Expr → List String
  | none => []
  | some e => e.qualifiers

/-- The qualifiers in the expressions among the pieces of a form. -/
def qualifiersOfPieces : List Piece → List String
  | [] => []
  | .expr e :: ps => e.qualifiers ++ qualifiersOfPieces ps
  | _ :: ps => qualifiersOfPieces ps

def Args.qualifiers : Args → List String
  | .none => []
  | .query q => q.qualifiers
  | .list _ items _ => qualifiersOfArgs items

def qualifiersOfArgs : List Arg → List String
  | [] => []
  | a :: as => a.qualifiers ++ qualifiersOfArgs as

def Arg.qualifiers : Arg → List String
  | .value e | .named _ _ (.value e) => e.qualifiers
  | .wildcard _ | .named _ _ _ | .keyed _ _ _ => []

def Window.qualifiers : Window → List String
  | .none | .named _ => []
  | .spec _ partition order _ => qualifiersOfExprs partition ++ qualifiersOfKeys order

def qualifiersOfKeys : List OrderKey → List String
  | [] => []
  | k :: ks => k.qualifiers ++ qualifiersOfKeys ks

def OrderKey.qualifiers : OrderKey → List String
  | .mk expr _ => expr.qualifiers

def Query.qualifiers : Query → List String
  | ⟨_, ctes, body, order, _⟩ =>
    qualifiersOfCtes ctes ++ (body.qualifiers ++ qualifiersOfKeys order)

def qualifiersOfCtes : List Cte → List String
  | [] => []
  | c :: cs => c.qualifiers ++ qualifiersOfCtes cs

def Cte.qualifiers : Cte → List String
  | ⟨_, _, query, _⟩ => query.qualifiers

def SetExpr.qualifiers : SetExpr → List String
  | .select s => s.qualifiers
  | .query q => q.qualifiers
  | .operation _ _ left right => left.qualifiers ++ right.qualifiers
  | .values _ | .insert _ | .update _ | .other _ => []

def Select.qualifiers : Select → List String
  | ⟨_, projection, _, sources, _, filter, grouping, _, having, _⟩ =>
    qualifiersOfSources sources ++ (qualifiersOfItems projection ++ (qualifiersOfOption filter ++
      (grouping.qualifiers ++ qualifiersOfOption having)))

def Grouping.qualifiers : Grouping → List String
  | .all _ => []
  | .keys exprs _ => qualifiersOfExprs exprs

def qualifiersOfItems : List SelectItem → List String
  | [] => []
  | i :: is => i.qualifiers ++ qualifiersOfItems is

def SelectItem.qualifiers : SelectItem → List String
  | .expr e | .aliased e _ => e.qualifiers
  | .wildcard _ => []
  | .qualifiedWildcard name _ => (ObjectName.qualifier? name).toList

def qualifiersOfSources : List TableWithJoins → List String
  | [] => []
  | t :: ts => t.qualifiers ++ qualifiersOfSources ts

def TableWithJoins.qualifiers : TableWithJoins → List String
  | ⟨relation, joins⟩ => relation.qualifiers ++ qualifiersOfJoins joins

def qualifiersOfJoins : List Join → List String
  | [] => []
  | ⟨_, relation, operator⟩ :: js =>
    relation.qualifiers ++ (operator.qualifiers ++ qualifiersOfJoins js)

def JoinOperator.qualifiers : JoinOperator → List String
  | .inner c | .left c | .right c | .full c | .special _ _ c => c.qualifiers
  | .cross => []

def JoinConstraint.qualifiers : JoinConstraint → List String
  | .on e => e.qualifiers
  | .usingColumns _ | .natural | .none => []

def TableFactor.qualifiers : TableFactor → List String
  | .table _ _ _ _ | .special _ _ _ => []
  | .derived _ query _ => query.qualifiers
  | .nestedJoin joined _ => joined.qualifiers

end

/-- A reference in parentheses has the qualifier that it has without them. -/
theorem Expr.qualifiers_of_columnRef? {e : Expr} {c : ColumnRef} (h : e.columnRef? = some c) :
    e.qualifiers = c.qualifier.toList := by
  fun_induction Expr.columnRef? e with
  | case1 path name =>
    cases h
    rw [Expr.qualifiers]
    rfl
  | case2 inner ih => rw [Expr.qualifiers, ih h]
  | case3 => cases h

end SqlFootprint.Sql
