import SqlFootprint.Extraction.Walk
import SqlFootprint.Proofs.Sql.Relations

/-!
# What walks are made of

However large a statement is, its walk is put together out of a few basic ones, and `Composed` is
the predicate that says so. It also keeps account of the relations that a walk enters and of the
roles in which it records columns. A property of walks that the basic ones have, and that every way
to put walks together keeps, thereby holds of all statements.
-/

namespace SqlFootprint

/-- Where a nested query stands. -/
inductive Place where
  /-- It is named in `WITH`. -/
  | withClause
  | elsewhere

namespace Place

def kind : Place → StatementKind
  | withClause => .cte
  | elsewhere => .select

/-- Puts the footprint of a nested query in its place. -/
def keep : Place → Footprint → Footprint → Footprint
  | withClause => .addCte
  | elsewhere => .addSubquery

end Place

/-- The footprint that a query gets of its own. -/
def Sql.Query.footprint (q : Sql.Query) (kind : StatementKind) (r : Reach) : Footprint :=
  (q.walk r (.start kind q.render)).finish

/-- What a query inside another one finds around it, one level further down. -/
def Reach.inside (r : Reach) (s : Scope) : Reach :=
  ⟨s.visible.reverse ++ r.outer, r.depth + 1, r.limit⟩

/-- A column in this role is no side of an edge. -/
def Role.OffEdge (role : Role) : Prop :=
  role ≠ .joined

/-- A column in this role is read: it is neither a side of an edge nor written to. -/
def Role.Reads (role : Role) : Prop :=
  role.OffEdge ∧ role ≠ .modified

namespace Footprint

/-- A footprint has a table of some name. -/
def Lists (f : Footprint) (name : String) : Prop :=
  ∃ t ∈ f.tables, t.name = name

end Footprint

namespace Scope

/-- The relation on one side of a join, if there is one, is in the footprint. -/
def Knows (s : Scope) (relation : Option String) : Prop :=
  ∀ name ∈ relation, s.footprint.Lists name

/-- A relation, if it is in the footprint. -/
def known? (s : Scope) (relation : Option String) : Option String :=
  relation.filter fun name ↦ s.footprint.tables.any (·.name == name)

theorem known?_eq {s : Scope} {relation : Option String} (h : s.Knows relation) :
    s.known? relation = relation := by
  cases relation with
  | none => rfl
  | some name =>
    obtain ⟨t, ht, same⟩ := h name rfl
    exact Option.filter_some_pos (List.any_eq_true.2 ⟨t, ht, beq_iff_eq.2 same⟩)

theorem lists_of_mem_known? {s : Scope} {relation : Option String} {name : String}
    (h : name ∈ s.known? relation) : s.footprint.Lists name := by
  obtain ⟨t, ht, same⟩ := List.any_eq_true.1 (Option.mem_filter_iff.1 h).2
  exact ⟨t, ht, beq_iff_eq.1 same⟩

end Scope

namespace Walk

/-- One walk, then another. -/
def andThen (v w : Walk) : Walk := fun r s ↦ w r (v r s)

/-- Records a column. If it has a qualifier, its table is the one that the qualifier means. -/
def use (c : ColumnUse) (qualifier : Option String) : Walk := fun r s ↦
  s.edit (·.record { c with table := (qualifier.map (s.resolve r.outer)).or c.table })

/-- The walk of a query inside another one. -/
def query (place : Place) (text : String) (w : Walk) : Walk :=
  .nested place.kind text (.deeper "query" w) place.keep

/-- The condition of a join, where only relations that are known have columns. -/
def join (kind : JoinKind) (left right : Option String) (on : Sql.Expr) (w : Walk) : Walk :=
  fun r s ↦ Sql.joinOn kind (s.known? left) (s.known? right) on w r s

/-- `Composed roles ts w`: the walk `w` is put together out of basic ones, the relations that it
enters or leaves out with a notice are `ts`, in this order, and apart from the sides of edges it
records columns in `roles` only. -/
inductive Composed : (Role → Prop) → List TableUse → Walk → Prop
  | skip {roles} : Composed roles [] .skip
  | andThen {roles ts us v w} :
      Composed roles ts v → Composed roles us w → Composed roles (ts ++ us) (v.andThen w)
  | condition {roles} (text : String) : Composed roles [] (.edit (·.addCondition text))
  | /-- Whatever is passed over with a notice may have any relations. -/
    unsupported {roles} (ts : List TableUse) (message : String) :
      Composed roles ts (.unsupported message)
  | register {roles} (t : TableUse) : Composed roles [t] (.register t)
  | use {roles} (name : String) (table aliasName : Option String) {role : Role}
      (qualifier : Option String) : roles role →
      Composed roles [] (.use { name, table, aliasName, roles := .ofRole role } qualifier)
  | /-- A join condition is walked only if it makes no edge; one that does has no relations. -/
    join {roles ts w} (kind : JoinKind) (left right : Option String) (on : Sql.Expr) :
      (on.equiJoin?.isSome → ts = []) → Composed roles ts w →
      Composed roles ts (.join kind left right on w)
  | deeper {roles ts w} (what : String) :
      Composed roles ts w → Composed roles ts (.deeper what w)
  | /-- Queries inside a statement only read, whatever the statement does. -/
    query {roles ts w} (place : Place) (q : Sql.Query) :
      q.walk = .deeper "query" w → Composed Role.Reads ts w →
      Composed roles ts (.query place q.render w)
  | branch {roles ts w} : Composed roles ts w → Composed roles ts w.branch
  | negated {roles ts w} : Composed roles ts w → Composed roles ts w.negated

/-! ## What the basic walks do -/

/-- The footprint of a query inside another one. -/
def child (place : Place) (text : String) (w : Walk) (r : Reach) (s : Scope) : Footprint :=
  (w (r.inside s) (.start place.kind text)).finish

theorem child_eq_footprint {q : Sql.Query} {w : Walk} (hq : q.walk = .deeper "query" w) {r : Reach}
    (h : r.depth < r.limit) (place : Place) (s : Scope) :
    child place q.render w r s =
      q.footprint place.kind ⟨s.visible.reverse ++ r.outer, r.depth, r.limit⟩ := by
  rw [Sql.Query.footprint, hq]
  simp only [child, deeper, if_pos h, Reach.inside]

theorem deeper_of_lt {r : Reach} (h : r.depth < r.limit) (what : String) (w : Walk) (s : Scope) :
    deeper what w r s = w { r with depth := r.depth + 1 } s := if_pos h

theorem deeper_of_le {r : Reach} (h : r.limit ≤ r.depth) (what : String) (w : Walk) (s : Scope) :
    deeper what w r s = s.tooDeep what r.limit := if_neg (Nat.not_lt.2 h)

theorem query_of_lt {r : Reach} (h : r.depth < r.limit) (place : Place) (text : String)
    (w : Walk) (s : Scope) :
    query place text w r s =
      s.edit fun f ↦ place.keep (f.absorb (child place text w r s)) (child place text w r s) := by
  simp only [query, nested, if_pos h, deeper, child, Reach.inside]

theorem query_of_le {r : Reach} (h : r.limit ≤ r.depth) (place : Place) (text : String)
    (w : Walk) (s : Scope) : query place text w r s = s.tooDeep "subquery" r.limit :=
  if_neg (Nat.not_lt.2 h)

/-- Only the conditions that a walk adds are changed by negating it. -/
theorem exists_negated_eq (w : Walk) (r : Reach) (s : Scope) :
    ∃ added, negated w r s = (w r s).edit fun f ↦
      { f with conditions := f.conditions.take s.footprint.conditions.length ++ added } := by
  unfold negated
  simp only
  split
  · exact ⟨_, rfl⟩
  · refine ⟨[], ?_⟩
    simp only [List.append_nil]
    rfl

/-- The condition of a join records an edge, or else it is walked after a notice. -/
theorem joinOn_eq (kind : JoinKind) (left right : Option String) (on : Sql.Expr) (w : Walk)
    (r : Reach) (s : Scope) :
    (∃ e, Sql.joinEdge? s kind left right on = some e ∧
      Sql.joinOn kind left right on w r s = Sql.recordEdge s e) ∨
    (Sql.joinEdge? s kind left right on = none ∧
      Sql.joinOn kind left right on w r s = w r (s.unsupported (Sql.noEdgeMessage on))) := by
  unfold Sql.joinOn
  cases Sql.joinEdge? s kind left right on with
  | none => exact .inr ⟨rfl, rfl⟩
  | some e => exact .inl ⟨e, rfl, rfl⟩

namespace Composed

variable {roles roles' : Role → Prop}

theorem mono {ts : List TableUse} {w : Walk} (h : Composed roles ts w)
    (le : ∀ role, roles role → roles' role) : Composed roles' ts w := by
  induction h with
  | skip => exact .skip
  | andThen _ _ ihv ihw => exact (ihv le).andThen (ihw le)
  | condition text => exact .condition text
  | unsupported ts message => exact .unsupported ts message
  | register t => exact .register t
  | use name table aliasName qualifier hr => exact .use name table aliasName qualifier (le _ hr)
  | join kind left right on edge _ ih => exact .join kind left right on edge (ih le)
  | deeper what _ ih => exact (ih le).deeper what
  | query place q hq hw _ => exact .query place q hq hw
  | branch _ ih => exact (ih le).branch
  | negated _ ih => exact (ih le).negated

/-! ## Sequences -/

theorem congr {ts : List TableUse} {v w : Walk} (h : Composed roles ts v)
    (e : ∀ r s, v r s = w r s) : Composed roles ts w := by
  have : v = w := funext fun r ↦ funext (e r)
  rwa [← this]

theorem cons {ts us : List TableUse} {w : Walk} {ws : List Walk} (h : Composed roles ts w)
    (k : Composed roles us (.all ws)) : Composed roles (ts ++ us) (.all (w :: ws)) :=
  h.andThen k

/-- A walk without relations adds none to a sequence. -/
theorem cons_nil {us : List TableUse} {w : Walk} {ws : List Walk} (h : Composed roles [] w)
    (k : Composed roles us (.all ws)) : Composed roles us (.all (w :: ws)) :=
  h.andThen k

theorem single {ts : List TableUse} {w : Walk} (h : Composed roles ts w) :
    Composed roles ts (.all [w]) := by
  have k := h.andThen .skip
  rw [List.append_nil] at k
  exact k

theorem pair {ts us : List TableUse} {v w : Walk} (h : Composed roles ts v)
    (k : Composed roles us w) : Composed roles (ts ++ us) (.all [v, w]) :=
  h.cons k.single

/-- The walks of a list of parts enter the relations of its parts. -/
theorem all_map {α : Type} {relations : α → List TableUse} {walk : α → Walk} {xs : List α}
    (h : ∀ x ∈ xs, Composed roles (relations x) (walk x)) :
    Composed roles (xs.flatMap relations) (.all (xs.map walk)) := by
  induction xs with
  | nil => exact .skip
  | cons x xs ih =>
    rw [List.forall_mem_cons] at h
    exact h.1.cons (ih h.2)

theorem all_map_nil {α : Type} {walk : α → Walk} {xs : List α}
    (h : ∀ x ∈ xs, Composed roles [] (walk x)) : Composed roles [] (.all (xs.map walk)) := by
  induction xs with
  | nil => exact .skip
  | cons x xs ih =>
    rw [List.forall_mem_cons] at h
    exact h.1.cons_nil (ih h.2)

/-! ## Columns -/

theorem recordRef (c : ColumnRef) {role : Role} (aliasName : Option String) (h : roles role) :
    Composed roles [] (.recordRef c role aliasName) :=
  (use c.column none aliasName c.qualifier h).congr fun r s ↦ by
    simp only [Walk.use, Walk.recordRef, Option.or_none]

end Composed

end Walk

theorem Mode.leaf_composed {roles : Role → Prop} (m : Mode) (e : Sql.Expr) :
    Walk.Composed roles [] (m.leaf e) := by
  unfold leaf
  split
  · cases e.condition? with
    | none => exact .skip
    | some text => exact .condition text
  · exact .skip

end SqlFootprint
