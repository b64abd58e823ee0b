import SqlFootprint.Proofs.Extraction.Composed

/-!
# What a qualifier means in nested scopes

The relations of all queries around a query are in its reach as one list, those of the innermost
query first. A qualifier that none of its own relations answers to is looked up there, first among
the aliases of the whole list and then among the names. An alias further out thus comes before a
name further in, and only then does a qualifier miss the nearest scope that knows it.
-/

namespace SqlFootprint

namespace Scope

/-- The relation of this scope that has a qualifier for its alias. The latest one is asked first. -/
def aliased? (s : Scope) (qualifier : String) : Option TableUse :=
  s.visible.reverse.find? (·.hasAlias qualifier)

/-- The relation of this scope that has a qualifier for its name. The latest one is asked first. -/
def named? (s : Scope) (qualifier : String) : Option TableUse :=
  s.visible.reverse.find? (·.hasName qualifier)

theorem ownTable?_eq (s : Scope) (qualifier : String) :
    s.ownTable? qualifier = (s.aliased? qualifier).or (s.named? qualifier) := rfl

/-- Of scopes the innermost of which comes first, the nearest one that knows a qualifier tells what
it means. -/
def nearest? (scopes : List Scope) (qualifier : String) : Option TableUse :=
  scopes.findSome? (·.ownTable? qualifier)

/-- Without an alias that fits, the nearest scope that knows a qualifier knows it by name. -/
theorem nearest?_of_not_aliased {scopes : List Scope} {qualifier : String}
    (h : scopes.findSome? (·.aliased? qualifier) = none) :
    nearest? scopes qualifier = scopes.findSome? (·.named? qualifier) := by
  unfold nearest?
  induction scopes with
  | nil => rfl
  | cons s scopes ih =>
    obtain ⟨hs, hrest⟩ := List.forall_mem_cons.1 (List.findSome?_eq_none_iff.1 h)
    rw [List.findSome?_cons, List.findSome?_cons, ih (List.findSome?_eq_none_iff.2 hrest),
      ownTable?_eq, hs, Option.none_or]

theorem isSome_nearest?_of_aliased {scopes : List Scope} {qualifier : String} {t : TableUse}
    (h : scopes.findSome? (·.aliased? qualifier) = some t) :
    (nearest? scopes qualifier).isSome := by
  obtain ⟨s, hs, ht⟩ := List.exists_of_findSome?_eq_some h
  refine List.findSome?_isSome_iff.2 ⟨s, hs, ?_⟩
  rw [ownTable?_eq, ht]
  rfl

end Scope

namespace Reach

/-- What a query inside some scopes finds around it. The innermost of the scopes comes first. -/
def within (limit : Nat) : List Scope → Reach
  | [] => ⟨[], 0, limit⟩
  | s :: scopes => (within limit scopes).inside s

theorem outer_within (limit : Nat) (scopes : List Scope) :
    (within limit scopes).outer = scopes.flatMap (·.visible.reverse) := by
  induction scopes with
  | nil => rfl
  | cons s scopes ih => rw [within, inside, ih, List.flatMap_cons]

/-- Around a query, the aliases of all scopes come before the names of any. -/
theorem find?_outer_within (limit : Nat) (scopes : List Scope) (qualifier : String) :
    TableUse.find? (within limit scopes).outer qualifier =
      (scopes.findSome? (·.aliased? qualifier)).or (scopes.findSome? (·.named? qualifier)) := by
  rw [TableUse.find?, outer_within, List.find?_flatMap, List.find?_flatMap]
  rfl

end Reach

theorem Scope.resolve_eq (s : Scope) (outer : List TableUse) (qualifier : String) :
    s.resolve outer qualifier =
      (((s.ownTable? qualifier).or (TableUse.find? outer qualifier)).map TableUse.name).getD
        qualifier := by
  unfold resolve
  cases (s.ownTable? qualifier).or (TableUse.find? outer qualifier) <;> rfl

/-- In however many scopes a query stands, a qualifier means the relation of its own that it fits,
or else the first alias around it, or else the first name. That is what the nearest scope that
knows the qualifier says, unless an alias further out hides it and has another table. -/
theorem Scope.resolve_within (limit : Nat) (s : Scope) (scopes : List Scope) (qualifier : String) :
    s.resolve (Reach.within limit scopes).outer qualifier =
      (((s.ownTable? qualifier).or ((scopes.findSome? (·.aliased? qualifier)).or
        (scopes.findSome? (·.named? qualifier)))).map TableUse.name).getD qualifier ∧
    (s.resolve (Reach.within limit scopes).outer qualifier =
        ((nearest? (s :: scopes) qualifier).map TableUse.name).getD qualifier ↔
      (s.ownTable? qualifier = none →
        ∀ t ∈ scopes.findSome? (·.aliased? qualifier), ∀ u ∈ nearest? scopes qualifier,
          t.name = u.name)) := by
  rw [resolve_eq, Reach.find?_outer_within]
  refine ⟨rfl, ?_⟩
  cases hs : s.ownTable? qualifier with
  | some t => simp [nearest?, hs]
  | none =>
    have outward : nearest? (s :: scopes) qualifier = nearest? scopes qualifier := by
      rw [nearest?, List.findSome?_cons, hs, nearest?]
    rw [outward]
    cases ha : scopes.findSome? (·.aliased? qualifier) with
    | none => simp [nearest?_of_not_aliased ha]
    | some t =>
      obtain ⟨u, hu⟩ := Option.isSome_iff_exists.1 (isSome_nearest?_of_aliased ha)
      simp [hu]

/-- In `SELECT 1 FROM orders users WHERE EXISTS (SELECT 1 FROM users WHERE EXISTS (SELECT 1 FROM
items WHERE users.id = 1))` the qualifier means `orders`, although `users` is nearer. -/
theorem Scope.resolve_within_ne_nearest :
    let query (source : Sql.TableWithJoins) (filter : Sql.Expr) :=
      Sql.Query.plain [.expr (.constant "1")] [source] (some filter)
    let inner := query (.named [⟨"items", none⟩])
      (.binary (.column [⟨"users", none⟩] ⟨"id", none⟩) (.compare .eq) (.constant "1"))
    let middle := query (.named [⟨"users", none⟩]) (.existsQuery false inner)
    let outermost := query (.named [⟨"orders", none⟩] "users") (.existsQuery false middle)
    let f := Footprint.ofStatement 9 (.query outermost) ""
    (f.columns.map fun c ↦ (c.table, c.name)) = [(some "orders", "id")] ∧
    ¬∀ limit s scopes qualifier, s.resolve (Reach.within limit scopes).outer qualifier =
      ((nearest? (s :: scopes) qualifier).map TableUse.name).getD qualifier := by
  intro query inner middle outermost f
  refine ⟨by decide +kernel, fun h ↦ ?_⟩
  let scope (t : TableUse) : Scope := ⟨.empty .select "", [t]⟩
  have meant := h 9 (scope ⟨"items", none, none⟩)
    [scope ⟨"users", none, none⟩, scope ⟨"orders", some "users", none⟩] "users"
  exact absurd meant (by decide +kernel)

end SqlFootprint
