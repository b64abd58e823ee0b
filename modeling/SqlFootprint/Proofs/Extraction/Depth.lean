import SqlFootprint.Proofs.Extraction.Composition

/-!
# The depth limit

A limit on how deep a statement is walked may cost parts of its footprint, but never in silence.
If no notice in the tree says that something was nested too deep, then a higher limit gives the same
footprint, and the tree is never nested deeper than the limit.
-/

namespace SqlFootprint

namespace Footprint

/-- Nothing in the tree was left out for being nested too deep. -/
def IsWhole : Footprint → Prop :=
  EveryNotice (·.kind ≠ .depthLimitExceeded)

end Footprint

theorem Scope.not_isWhole_tooDeep (s : Scope) (what : String) (limit : Nat) :
    ¬(s.tooDeep what limit).footprint.IsWhole :=
  fun h ↦ h.of_note rfl

namespace Walk

open Footprint

/-! ## More levels -/

/-- A walk that leaves nothing out does the same where as many levels are left, or more. -/
theorem Composed.eq_of_isWhole {roles : Role → Prop} {ts : List TableUse} {w : Walk}
    (h : Composed roles ts w) (r : Reach) (s : Scope) {depth limit : Nat}
    (levels : r.limit - r.depth ≤ limit - depth) (hw : (w r s).footprint.IsWhole) :
    w ⟨r.outer, depth, limit⟩ s = w r s := by
  induction h generalizing r s depth with
  | skip => rfl
  | @andThen _ _ _ v w _ kw ihv ihw =>
    have first : v ⟨r.outer, depth, limit⟩ s = v r s :=
      ihv r s levels (hw.of_extends (kw.extends r _))
    change w _ (v ⟨r.outer, depth, limit⟩ s) = w r (v r s)
    rw [first, ihw r _ levels hw]
  | condition | unsupported | register | use => rfl
  | @join _ _ w kind left right on _ _ ih =>
    unfold Walk.join Sql.joinOn at hw ⊢
    split
    · rfl
    · rename_i h
      rw [h] at hw
      exact ih r _ levels hw
  | @deeper _ _ w what _ ih =>
    rcases Nat.lt_or_ge r.depth r.limit with hd | hd
    · have hd' : depth < limit := by omega
      rw [deeper_of_lt hd] at hw ⊢
      rw [deeper_of_lt hd']
      exact ih { r with depth := r.depth + 1 } s (by dsimp only; omega) hw
    · rw [deeper_of_le hd] at hw
      exact absurd hw (s.not_isWhole_tooDeep what r.limit)
  | @query _ _ w place q _ _ ih =>
    rcases Nat.lt_or_ge r.depth r.limit with hd | hd
    · have hd' : depth < limit := by omega
      rw [query_of_lt hd] at hw ⊢
      -- The nested footprint is kept, so it is whole as well.
      have inner : (child place q.render w r s).IsWhole :=
        (everyNotice_iff.1 hw).2 _ (mem_children_keep.2 (.inr rfl))
      have same : child place q.render w ⟨r.outer, depth, limit⟩ s = child place q.render w r s :=
        congrArg Scope.finish (ih (r.inside s) (.start place.kind q.render)
          (by dsimp only [Reach.inside]; omega) (inner.congr rfl rfl))
      rw [query_of_lt hd', same]
    · rw [query_of_le hd] at hw
      exact absurd hw (s.not_isWhole_tooDeep "subquery" r.limit)
  | @branch _ _ w _ ih =>
    have same : w ⟨r.outer, depth, limit⟩ s = w r s := ih r s levels hw
    simp only [Walk.branch, same]
  | @negated _ _ w _ ih =>
    obtain ⟨added, hn⟩ := exists_negated_eq w r s
    rw [hn] at hw
    have same : w ⟨r.outer, depth, limit⟩ s = w r s := ih r s levels (hw.congr rfl rfl)
    simp only [Walk.negated, same]

/-! ## Levels -/

/-- What a walk nests in a footprint takes no more levels than are left below the limit. -/
def NestsWithin (r : Reach) (f g : Footprint) : Prop :=
  ∀ n, r.limit ≤ r.depth + n → f.nesting ≤ n → g.nesting ≤ n

theorem NestsWithin.of_children {r : Reach} {f g h : Footprint} (fg : NestsWithin r f g)
    (same : h.children = g.children) : NestsWithin r f h := by
  intro n hr hf
  rw [nesting_congr same]
  exact fg n hr hf

theorem effect_nestsWithin : Effect NestsWithin := by
  have refl (r : Reach) (f : Footprint) : NestsWithin r f f := fun _ _ hf ↦ hf
  exact
    { refl
      trans := fun fg gh n hr hf ↦ gh n hr (fg n hr hf)
      record := fun r f _ _ _ _ ↦ (refl r f).of_children rfl
      addTable := fun r f _ ↦ (refl r f).of_children rfl
      addJoin := fun r f _ ↦ (refl r f).of_children rfl
      addCondition := fun r f _ ↦ (refl r f).of_children rfl
      note := fun r f _ ↦ (refl r f).of_children rfl
      deeper := by
        intro r f g _ fg n hr hf
        exact fg n (by dsimp only; omega) hf
      query := by
        intro r f g outer place q hd _ inner n hr hf
        rw [nesting_le_iff] at hf ⊢
        intro c hc
        rcases mem_children_keep.1 hc with hc | rfl
        · exact hf c hc
        · -- A nested query is walked one level down, which pays for its own level in the tree.
          have levels : g.nesting ≤ n - 1 := inner (n - 1) (by dsimp only; omega) (Nat.zero_le _)
          have same : g.dedup.nesting = g.nesting := nesting_congr rfl
          omega
      negated := fun _ fg ↦ fg.of_children rfl }

end Walk

namespace Footprint

/-! ## Statements -/

/-- A limit that costs nothing may as well be higher, and no limit is exceeded by the tree. -/
theorem ofStatement_limit (statement : Sql.Statement) (text : String) :
    (∀ limit limit', limit ≤ limit' →
      (∀ n ∈ (ofStatement limit statement text).allNotices, n.kind ≠ .depthLimitExceeded) →
      ofStatement limit' statement text = ofStatement limit statement text) ∧
    ∀ limit, (ofStatement limit statement text).nesting ≤ limit := by
  have composed := statement.walk_composed
  refine ⟨fun limit limit' hle hw ↦ ?_, fun limit ↦ ?_⟩
  · have same := composed.eq_of_isWhole ⟨[], 0, limit⟩ (.start statement.kind text)
      (Nat.sub_le_sub_right hle 0) (EveryNotice.congr hw rfl rfl)
    exact congrArg Scope.finish same
  · calc (ofStatement limit statement text).nesting
        = (statement.walk ⟨[], 0, limit⟩ (.start statement.kind text)).footprint.nesting :=
          nesting_congr rfl
      _ ≤ limit :=
          composed.effect Walk.effect_nestsWithin ⟨[], 0, limit⟩ (.start statement.kind text) limit
            (by simp) (Nat.zero_le _)

/-- The sample needs four levels, and looks the same with nine. -/
theorem ofStatement_limit_sample :
    let statement := Sql.Statement.query .sample
    4 ≤ 9 ∧ (∀ n ∈ (ofStatement 4 statement "").allNotices, n.kind ≠ .depthLimitExceeded) ∧
      ofStatement 9 statement "" = ofStatement 4 statement "" ∧
      (ofStatement 4 statement "").nesting ≤ 4 := by
  intro statement
  have whole : ∀ n ∈ (ofStatement 4 statement "").allNotices, n.kind ≠ .depthLimitExceeded := by
    decide +kernel
  obtain ⟨same, levels⟩ := ofStatement_limit statement ""
  exact ⟨by decide, whole, same 4 9 (by decide) whole, levels 4⟩

end Footprint

end SqlFootprint
