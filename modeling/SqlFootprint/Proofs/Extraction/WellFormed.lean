import SqlFootprint.Proofs.Extraction.Composition

/-!
# Footprints of statements are well-formed

Walks keep every footprint of the tree well-formed, and thus all footprints of a statement are. They
also leave all columns unjudged, since no schema has been asked.
-/

namespace SqlFootprint

/-- Merging columns that are not judged makes no verdict. -/
theorem ColumnUse.unjudged_recordAll {cs new : List ColumnUse} (hcs : ∀ d ∈ cs, d.valid = none)
    (hnew : ∀ c ∈ new, c.valid = none) : ∀ d ∈ recordAll cs new, d.valid = none :=
  forall_standing_recordAll (P := fun p ↦ p.1 = none) hcs hnew

namespace Footprint

theorem WellFormed.keep {f : Footprint} (h : f.WellFormed) (place : Place) (child : Footprint) :
    (place.keep f child).WellFormed := by
  cases place with
  | withClause => exact { h with }
  | elsewhere => exact { h with }

/-- Every footprint of the tree is well-formed. -/
def IsSound (f : Footprint) : Prop :=
  ∀ g ∈ f.parts, g.WellFormed

theorem isSound_iff {f : Footprint} :
    f.IsSound ↔ f.WellFormed ∧ ∀ c ∈ f.children, c.IsSound :=
  forall_parts_iff

theorem IsSound.of_children {f g : Footprint} (hf : f.IsSound) (hg : g.WellFormed)
    (same : g.children = f.children) : g.IsSound := by
  rw [isSound_iff, same]
  exact ⟨hg, (isSound_iff.1 hf).2⟩

theorem IsSound.wellFormed {f : Footprint} (h : f.IsSound) : f.WellFormed :=
  (isSound_iff.1 h).1

theorem IsSound.empty (kind : StatementKind) (text : String) : (empty kind text).IsSound :=
  isSound_iff.2 ⟨.empty kind text, List.forall_mem_nil _⟩

theorem IsSound.dedup {f : Footprint} (h : f.IsSound) : f.dedup.IsSound :=
  h.of_children h.wellFormed.dedup rfl

/-- No column of the tree has been judged. -/
def IsUnjudged (f : Footprint) : Prop :=
  ∀ g ∈ f.parts, ∀ c ∈ g.columns, c.valid = none

theorem isUnjudged_iff {f : Footprint} :
    f.IsUnjudged ↔ (∀ c ∈ f.columns, c.valid = none) ∧ ∀ c ∈ f.children, c.IsUnjudged :=
  forall_parts_iff

theorem IsUnjudged.of_children {f g : Footprint} (hf : f.IsUnjudged)
    (hg : ∀ c ∈ g.columns, c.valid = none) (same : g.children = f.children) : g.IsUnjudged := by
  rw [isUnjudged_iff, same]
  exact ⟨hg, (isUnjudged_iff.1 hf).2⟩

theorem IsUnjudged.columns {f : Footprint} (h : f.IsUnjudged) : ∀ c ∈ f.columns, c.valid = none :=
  (isUnjudged_iff.1 h).1

theorem IsUnjudged.empty (kind : StatementKind) (text : String) : (empty kind text).IsUnjudged :=
  isUnjudged_iff.2 ⟨List.forall_mem_nil _, List.forall_mem_nil _⟩

theorem IsUnjudged.dedup {f : Footprint} (h : f.IsUnjudged) : f.dedup.IsUnjudged :=
  h.of_children (ColumnUse.unjudged_recordAll (List.forall_mem_nil _) h.columns) rfl

end Footprint

namespace Walk

open Footprint

theorem effect_isSound : Effect fun _ f g ↦ f.IsSound → g.IsSound where
  refl _ _ := id
  trans fg gh := gh ∘ fg
  record _ _ _ _ _ _ hf := hf.of_children (hf.wellFormed.record nofun) rfl
  addTable _ _ t hf := hf.of_children (hf.wellFormed.addTable t) rfl
  addJoin _ _ _ hf := hf.of_children { hf.wellFormed with } rfl
  addCondition _ _ _ hf := hf.of_children { hf.wellFormed with } rfl
  note _ _ n hf := hf.of_children (hf.wellFormed.note n) rfl
  deeper _ fg := fg
  query {r f g} _ place _ _ _ inner hf := by
    have sound : g.dedup.IsSound := (inner (.empty _ _)).dedup
    rw [isSound_iff] at hf ⊢
    refine ⟨(hf.1.absorb sound.wellFormed).keep place _, fun c hc ↦ ?_⟩
    obtain hc | rfl := mem_children_keep.1 hc
    · exact hf.2 c hc
    · exact sound
  negated _ fg hf := (fg hf).of_children { (fg hf).wellFormed with } rfl

theorem effect_isUnjudged : Effect fun _ f g ↦ f.IsUnjudged → g.IsUnjudged where
  refl _ _ := id
  trans fg gh := gh ∘ fg
  record _ _ _ _ _ _ hf := hf.of_children
    (ColumnUse.unjudged_recordAll hf.columns (List.forall_mem_singleton.2 rfl)) rfl
  addTable _ _ _ hf := hf.of_children hf.columns rfl
  addJoin _ _ _ hf := hf.of_children hf.columns rfl
  addCondition _ _ _ hf := hf.of_children hf.columns rfl
  note _ _ _ hf := hf.of_children hf.columns rfl
  deeper _ fg := fg
  query {r f g} _ place _ _ _ inner hf := by
    have unjudged : g.dedup.IsUnjudged := (inner (.empty _ _)).dedup
    have absorbed := ColumnUse.unjudged_recordAll hf.columns unjudged.columns
    have columns : ∀ c ∈ (place.keep (f.absorb g.dedup) g.dedup).columns, c.valid = none := by
      cases place with
      | withClause => exact absorbed
      | elsewhere => exact absorbed
    refine isUnjudged_iff.2 ⟨columns, fun c hc ↦ ?_⟩
    obtain hc | rfl := mem_children_keep.1 hc
    · exact (isUnjudged_iff.1 hf).2 c hc
    · exact unjudged
  negated _ fg hf := (fg hf).of_children (fg hf).columns rfl

end Walk

/-- All footprints of a statement are well-formed, whatever the limit cuts off. -/
theorem Footprint.isSound_ofStatement (limit : Nat) (statement : Sql.Statement) (text : String) :
    (ofStatement limit statement text).IsSound :=
  (statement.walk_composed.effect Walk.effect_isSound ⟨[], 0, limit⟩ (.start statement.kind text)
    (.empty statement.kind text)).dedup

theorem Footprint.isUnjudged_ofStatement (limit : Nat) (statement : Sql.Statement)
    (text : String) : (ofStatement limit statement text).IsUnjudged :=
  (statement.walk_composed.effect Walk.effect_isUnjudged ⟨[], 0, limit⟩
    (.start statement.kind text) (.empty statement.kind text)).dedup

end SqlFootprint
