import SqlFootprint.Proofs.Sql.Relations

/-!
# What is met in an expression

The references and nested queries that the walk of an expression comes upon, in the order in which
it does. Each has a depth, which is how many levels the walk has gone down until there. A reference
is marked if it takes on the role of the whole expression. The bounds of `BETWEEN`, the items of a
list after `IN` and patterns do not: what they refer to is mentioned only.

Nested queries are met, but not looked into, and what no walk enters holds nothing to be met.
-/

namespace SqlFootprint.Sql

/-- What a walk may come upon. -/
inductive Sight where
  | reference (c : ColumnRef)
  | query (q : Query)

/-- What is met at some place of an expression. -/
structure Sighting where
  sight : Sight
  depth : Nat := 0
  /-- Whether a reference takes on the role of the expression. -/
  marked : Bool := true

namespace Sighting

/-- What is met one level further down. -/
def deeper (sightings : List Sighting) : List Sighting :=
  sightings.map fun s ↦ { s with depth := s.depth + 1 }

/-- What is met in an operand that is mentioned only. -/
def mentioned (sightings : List Sighting) : List Sighting :=
  sightings.map fun s ↦ { s with marked := false }

/-- What is met in two operands. Only a chain of `AND` or `OR` takes no level. -/
def joined (op : BinaryOp) (left right : List Sighting) : List Sighting :=
  match op with
  | .and | .or => left ++ right
  | .compare _ | .other _ => deeper (left ++ right)

end Sighting

open Sighting (deeper mentioned joined)

mutual

def Expr.sightings : Expr → List Sighting
  | .column path name => deeper [{ sight := .reference ⟨path.getLast?.map Ident.text, name.text⟩ }]
  | .constant _ | .raw _ => []
  | .binary left op right => joined op left.sightings right.sightings
  | .unary _ operand | .nested operand | .cast _ operand _ _ | .nullTest operand _ =>
    deeper operand.sightings
  | .distinctTest left _ right | .quantified left _ _ right =>
    deeper (left.sightings ++ right.sightings)
  | .between operand _ low high =>
    deeper (operand.sightings ++ mentioned (low.sightings ++ high.sightings))
  | .inList operand _ items => deeper (operand.sightings ++ mentioned (sightingsOfExprs items))
  | .inQuery operand _ query => deeper (operand.sightings ++ [{ sight := .query query }])
  | .pattern _ operand _ _ against _ => deeper (operand.sightings ++ mentioned against.sightings)
  | .existsQuery _ query | .subquery query => deeper [{ sight := .query query }]
  | .call _ _ arguments _ filter _ window =>
    deeper (arguments.sightings ++ (sightingsOfOption filter ++ window.sightings))
  | .braced call => call.sightings
  | .cases operand conditions results otherwise =>
    deeper (sightingsOfOption operand ++ (sightingsOfExprs conditions ++
      (sightingsOfExprs results ++ sightingsOfOption otherwise)))
  | .trim _ what operand characters =>
    deeper (operand.sightings ++ (sightingsOfOption what ++ sightingsOfExprs characters))
  | .groupingSets parts | .template parts => deeper (sightingsOfPieces parts)

def sightingsOfExprs : List Expr → List Sighting
  | [] => []
  | e :: es => e.sightings ++ sightingsOfExprs es

def sightingsOfOption : Option Expr → List Sighting
  | none => []
  | some e => e.sightings

/-- What is met in the expressions among the pieces of a form. -/
def sightingsOfPieces : List Piece → List Sighting
  | [] => []
  | .expr e :: ps => e.sightings ++ sightingsOfPieces ps
  | _ :: ps => sightingsOfPieces ps

def Args.sightings : Args → List Sighting
  | .none => []
  | .query q => [{ sight := .query q }]
  | .list _ items _ => sightingsOfArgs items

def sightingsOfArgs : List Arg → List Sighting
  | [] => []
  | a :: as => a.sightings ++ sightingsOfArgs as

def Arg.sightings : Arg → List Sighting
  | .value e | .named _ _ (.value e) => e.sightings
  | .wildcard _ | .named _ _ _ | .keyed _ _ _ => []

def Window.sightings : Window → List Sighting
  | .none | .named _ => []
  | .spec _ partition order _ => sightingsOfExprs partition ++ sightingsOfKeys order

def sightingsOfKeys : List OrderKey → List Sighting
  | [] => []
  | k :: ks => k.sightings ++ sightingsOfKeys ks

def OrderKey.sightings : OrderKey → List Sighting
  | .mk expr _ => expr.sightings

end

/-! ## Queries -/

def SelectItem.sightings : SelectItem → List Sighting
  | .expr e | .aliased e _ => e.sightings
  | .wildcard _ | .qualifiedWildcard _ _ => []

def Grouping.sightings : Grouping → List Sighting
  | .all _ => []
  | .keys exprs _ => sightingsOfExprs exprs

def Select.sightings (s : Select) : List Sighting :=
  s.projection.flatMap SelectItem.sightings ++ (sightingsOfOption s.filter ++
    (s.grouping.sightings ++ sightingsOfOption s.having))

/-- What is met in the clauses of a query that is a single selection. -/
def Query.sightings : Query → List Sighting
  | ⟨_, _, .select s, order, _⟩ => s.sightings ++ sightingsOfKeys order
  | _ => []

/-- A reference in parentheses is met as it is without them. -/
theorem Expr.exists_sighting_of_columnRef? {e : Expr} {c : ColumnRef} (h : e.columnRef? = some c) :
    ∃ s ∈ e.sightings, s.sight = .reference c := by
  fun_induction Expr.columnRef? e with
  | case1 path name =>
    cases h
    exact ⟨_, List.mem_singleton_self _, rfl⟩
  | case2 inner ih =>
    obtain ⟨s, hs, same⟩ := ih h
    exact ⟨_, List.mem_map_of_mem hs, same⟩
  | case3 => cases h

end SqlFootprint.Sql
