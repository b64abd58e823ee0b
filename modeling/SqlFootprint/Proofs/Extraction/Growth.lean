import SqlFootprint.Proofs.Extraction.Effect
import SqlFootprint.Proofs.Footprint.Tree

/-!
# Walks only add

What a walk finds in a footprint stays there, and what it adds comes after it: `Composed.extends`.
So a notice, or the footprint of a nested query, is never lost on the way to the end of the
statement, and what all notices of the whole tree have in common they had from the beginning.
-/

namespace SqlFootprint

/-- A footprint that begins with another one. Columns are left out: merging may change them. -/
structure Footprint.Extends (f g : Footprint) : Prop where
  tables : f.tables <+: g.tables
  joins : f.joins <+: g.joins
  conditions : f.conditions <+: g.conditions
  ctes : f.ctes <+: g.ctes
  subqueries : f.subqueries <+: g.subqueries
  notices : f.notices <+: g.notices

namespace TableUse

theorem prefix_insert (tables : List TableUse) (t : TableUse) : tables <+: insert tables t := by
  unfold insert
  split
  · exact List.prefix_rfl
  · exact List.prefix_append _ _

theorem prefix_insertAll (tables new : List TableUse) : tables <+: new.foldl insert tables := by
  induction new generalizing tables with
  | nil => exact List.prefix_rfl
  | cons t ts ih => exact (prefix_insert tables t).trans (ih _)

end TableUse

namespace Footprint

/-! ## Changes of a footprint -/

@[refl] theorem Extends.refl (f : Footprint) : f.Extends f :=
  ⟨List.prefix_rfl, List.prefix_rfl, List.prefix_rfl, List.prefix_rfl, List.prefix_rfl,
    List.prefix_rfl⟩

theorem Extends.trans {f g h : Footprint} (fg : f.Extends g) (gh : g.Extends h) : f.Extends h where
  tables := fg.tables.trans gh.tables
  joins := fg.joins.trans gh.joins
  conditions := fg.conditions.trans gh.conditions
  ctes := fg.ctes.trans gh.ctes
  subqueries := fg.subqueries.trans gh.subqueries
  notices := fg.notices.trans gh.notices

theorem extends_record (f : Footprint) (c : ColumnUse) : f.Extends (f.record c) :=
  { Extends.refl f with }

theorem extends_addTable (f : Footprint) (t : TableUse) : f.Extends (f.addTable t) :=
  { Extends.refl f with tables := TableUse.prefix_insert f.tables t }

theorem extends_absorb (f child : Footprint) : f.Extends (f.absorb child) :=
  { Extends.refl f with tables := TableUse.prefix_insertAll f.tables child.tables }

theorem extends_addJoin (f : Footprint) (j : JoinEdge) : f.Extends (f.addJoin j) :=
  { Extends.refl f with joins := List.prefix_append _ _ }

theorem extends_addCondition (f : Footprint) (text : String) : f.Extends (f.addCondition text) :=
  { Extends.refl f with conditions := List.prefix_append _ _ }

theorem extends_keep (place : Place) (f child : Footprint) : f.Extends (place.keep f child) := by
  cases place with
  | withClause => exact { Extends.refl f with ctes := List.prefix_append _ _ }
  | elsewhere => exact { Extends.refl f with subqueries := List.prefix_append _ _ }

theorem extends_note (f : Footprint) (n : Notice) : f.Extends (f.note n) := by
  refine { Extends.refl f with notices := ?_ }
  unfold note
  dsimp only
  split
  · exact List.prefix_rfl
  · exact List.prefix_append _ _

theorem mem_notices_note (f : Footprint) (n : Notice) : n ∈ (f.note n).notices := by
  unfold note
  dsimp only
  split
  · exact List.contains_iff_mem.1 ‹_›
  · exact List.mem_append_right _ (List.mem_singleton_self n)

/-! ## Children -/

theorem mem_children_keep {place : Place} {f child c : Footprint} :
    c ∈ (place.keep f child).children ↔ c ∈ f.children ∨ c = child := by
  cases place with
  | withClause =>
    simp only [Place.keep, addCte, children, List.mem_append, List.mem_singleton]
    exact or_right_comm
  | elsewhere =>
    simp only [Place.keep, addSubquery, children, List.mem_append, List.mem_singleton]
    exact or_assoc.symm

theorem Extends.children_subset {f g : Footprint} (h : f.Extends g) : f.children ⊆ g.children := by
  intro c hc
  rcases List.mem_append.1 hc with hc | hc
  · exact List.mem_append_left _ (h.ctes.subset hc)
  · exact List.mem_append_right _ (h.subqueries.subset hc)

/-! ## Notices -/

/-- All notices of the tree have a property. -/
def EveryNotice (P : Notice → Prop) (f : Footprint) : Prop :=
  ∀ n ∈ f.allNotices, P n

section EveryNotice

variable {P : Notice → Prop} {f g : Footprint}

theorem everyNotice_iff :
    f.EveryNotice P ↔ (∀ n ∈ f.notices, P n) ∧ ∀ c ∈ f.children, c.EveryNotice P := by
  unfold EveryNotice
  rw [allNotices_eq, List.forall_mem_append, List.forall_mem_flatMap]

theorem EveryNotice.congr (h : f.EveryNotice P) (hn : g.notices = f.notices)
    (hc : g.children = f.children) : g.EveryNotice P := by
  rwa [everyNotice_iff, hn, hc, ← everyNotice_iff]

/-- A notice is not taken back by what comes later. -/
theorem EveryNotice.of_extends (hg : g.EveryNotice P) (h : f.Extends g) : f.EveryNotice P := by
  rw [everyNotice_iff] at hg ⊢
  exact ⟨fun n hn ↦ hg.1 n (h.notices.subset hn), fun c hc ↦ hg.2 c (h.children_subset hc)⟩

theorem EveryNotice.of_note {n : Notice} (h : (f.note n).EveryNotice P) : P n :=
  (everyNotice_iff.1 h).1 n (mem_notices_note f n)

end EveryNotice

end Footprint

namespace Walk

open Footprint

theorem effect_extends : Effect fun _ f g ↦ f.Extends g where
  refl _ := .refl
  trans := .trans
  record _ _ _ _ _ _ := extends_record _ _
  addTable _ := extends_addTable
  addJoin _ := extends_addJoin
  addCondition _ := extends_addCondition
  note _ := extends_note
  deeper _ := id
  query _ place _ _ _ _ := (extends_absorb _ _).trans (extends_keep place _ _)
  negated {r f g} added grown := by
    -- The conditions are cut where those of before end.
    have cut : f.conditions = g.conditions.take f.conditions.length :=
      List.prefix_iff_eq_take.1 grown.conditions
    refine { grown with conditions := ?_ }
    dsimp only
    rw [← cut]
    exact List.prefix_append _ _

/-- What was in a footprint before a walk is there after it, in the same place. -/
theorem Composed.extends {roles : Role → Prop} {ts : List TableUse} {w : Walk}
    (h : Composed roles ts w) (r : Reach) (s : Scope) : s.footprint.Extends (w r s).footprint :=
  h.effect effect_extends r s

end Walk

end SqlFootprint
