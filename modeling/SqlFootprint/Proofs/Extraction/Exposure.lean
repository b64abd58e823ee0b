import SqlFootprint.Proofs.Extraction.WellFormed
import SqlFootprint.Proofs.Footprint.Roles

/-!
# What nested queries expose

A footprint covers another one if it has its tables and all roles of its columns. Every footprint in
the tree of a statement covers its children, since what a nested query exposes is taken over and
later changes take nothing back. Covering is transitive, so the children may be any footprints
further inside.
-/

namespace SqlFootprint

namespace Footprint

/-- `f.Covers g`: the tables of `g` are tables of `f`, and the columns play in `f` all roles that
they play in `g`. -/
structure Covers (f g : Footprint) : Prop where
  tables : g.tables.map TableUse.identity ⊆ f.tables.map TableUse.identity
  columns : ∀ role key, g.Plays role key → f.Plays role key

namespace Covers

variable {f g h : Footprint}

@[refl] theorem refl (f : Footprint) : f.Covers f :=
  ⟨List.Subset.refl _, fun _ _ ↦ id⟩

theorem trans (fg : f.Covers g) (gh : g.Covers h) : f.Covers h where
  tables := List.Subset.trans gh.tables fg.tables
  columns role key hk := fg.columns role key (gh.columns role key hk)

/-- Only tables and columns matter. -/
theorem of_eq (tables : f.tables = g.tables) (columns : f.columns = g.columns) : f.Covers g where
  tables := by rw [tables]; exact List.Subset.refl _
  columns role key hk := by rwa [Plays, columns]

theorem record (f : Footprint) (c : ColumnUse) : (f.record c).Covers f where
  tables := List.Subset.refl _
  columns _ _ hk := plays_record.2 (.inl hk)

theorem addTable (f : Footprint) (t : TableUse) : (f.addTable t).Covers f where
  tables _ hid := TableUse.mem_identity_insert.2 (.inl hid)
  columns _ _ := id

theorem dedup (f : Footprint) : f.dedup.Covers f where
  tables := List.Subset.refl _
  columns _ _ := plays_dedup.2

theorem absorb_left (f child : Footprint) : (f.absorb child).Covers f where
  tables _ hid := TableUse.mem_identity_insertAll.2 (.inl hid)
  columns _ _ hk := plays_absorb.2 (.inl hk)

theorem absorb_right (f child : Footprint) : (f.absorb child).Covers child where
  tables _ hid := TableUse.mem_identity_insertAll.2 (.inr hid)
  columns _ _ hk := plays_absorb.2 (.inr hk)

theorem keep (place : Place) (f child : Footprint) : (place.keep f child).Covers f := by
  cases place with
  | withClause => exact .of_eq rfl rfl
  | elsewhere => exact .of_eq rfl rfl

end Covers

/-! ## Trees -/

/-- The footprints inside a footprint, at any depth. -/
def inner (f : Footprint) : List Footprint :=
  f.children.flatMap parts

/-- Every footprint of the tree covers its children. -/
def IsExposed (f : Footprint) : Prop :=
  ∀ g ∈ f.parts, ∀ c ∈ g.children, g.Covers c

theorem isExposed_iff {f : Footprint} :
    f.IsExposed ↔ (∀ c ∈ f.children, f.Covers c) ∧ ∀ c ∈ f.children, c.IsExposed :=
  forall_parts_iff

theorem IsExposed.empty (kind : StatementKind) (text : String) : (empty kind text).IsExposed :=
  isExposed_iff.2 ⟨List.forall_mem_nil _, List.forall_mem_nil _⟩

/-- A footprint that covers more still covers its children. -/
theorem IsExposed.of_covers {f g : Footprint} (hf : f.IsExposed) (gf : g.Covers f)
    (same : g.children = f.children) : g.IsExposed := by
  rw [isExposed_iff] at hf ⊢
  rw [same]
  exact ⟨fun c hc ↦ gf.trans (hf.1 c hc), hf.2⟩

theorem IsExposed.covers {f n : Footprint} (h : f.IsExposed) (hn : n ∈ f.inner) : f.Covers n := by
  induction f using Footprint.induct with
  | step f ih =>
    obtain ⟨own, below⟩ := isExposed_iff.1 h
    obtain ⟨c, hc, hn⟩ := List.mem_flatMap.1 hn
    rw [parts_eq, List.mem_cons] at hn
    obtain rfl | hn := hn
    · exact own n hc
    · exact (own c hc).trans (ih c hc (below c hc) hn)

end Footprint

namespace Walk

open Footprint

/-- A walk takes nothing back, and what it nests is covered. -/
theorem effect_isExposed : Effect fun _ f g ↦ g.Covers f ∧ (f.IsExposed → g.IsExposed) where
  refl _ f := ⟨.refl f, id⟩
  trans fg gh := ⟨gh.1.trans fg.1, gh.2 ∘ fg.2⟩
  record _ f _ _ _ _ := ⟨.record f _, fun hf ↦ hf.of_covers (.record f _) rfl⟩
  addTable _ f t := ⟨.addTable f t, fun hf ↦ hf.of_covers (.addTable f t) rfl⟩
  addJoin _ _ _ := ⟨.of_eq rfl rfl, fun hf ↦ hf.of_covers (.of_eq rfl rfl) rfl⟩
  addCondition _ _ _ := ⟨.of_eq rfl rfl, fun hf ↦ hf.of_covers (.of_eq rfl rfl) rfl⟩
  note _ _ _ := ⟨.of_eq rfl rfl, fun hf ↦ hf.of_covers (.of_eq rfl rfl) rfl⟩
  deeper _ fg := fg
  query {r f g} _ place _ _ _ child := by
    have exposed : g.dedup.IsExposed := (child.2 (.empty _ _)).of_covers (.dedup g) rfl
    have kept : (place.keep (f.absorb g.dedup) g.dedup).Covers (f.absorb g.dedup) :=
      .keep place _ _
    have grown := kept.trans (.absorb_left f g.dedup)
    refine ⟨grown, fun hf ↦ ?_⟩
    rw [isExposed_iff] at hf ⊢
    constructor
    · intro c hc
      obtain hc | rfl := mem_children_keep.1 hc
      · exact grown.trans (hf.1 c hc)
      · exact kept.trans (.absorb_right f g.dedup)
    · intro c hc
      obtain hc | rfl := mem_children_keep.1 hc
      · exact hf.2 c hc
      · exact exposed
  negated {r f g} added fg := by
    have same : ({ g with conditions := g.conditions.take f.conditions.length ++ added } :
        Footprint).Covers g := .of_eq rfl rfl
    exact ⟨same.trans fg.1, fun hf ↦ (fg.2 hf).of_covers same rfl⟩

end Walk

/-- Each footprint in the tree of a statement covers what is inside it. -/
theorem Footprint.isExposed_ofStatement (limit : Nat) (statement : Sql.Statement) (text : String) :
    (ofStatement limit statement text).IsExposed :=
  ((statement.walk_composed.effect Walk.effect_isExposed ⟨[], 0, limit⟩
    (.start statement.kind text)).2 (.empty statement.kind text)).of_covers (.dedup _) rfl

end SqlFootprint
