import SqlFootprint.Footprint.Basic

/-!
# The tree of a footprint

A footprint with the footprints of the queries nested in it is a tree. `parts` lists them all and
`nesting` measures how deep the tree goes. Both are described by the children of a footprint, so
that what holds of a whole tree can be shown one footprint at a time.
-/

namespace SqlFootprint.Footprint

/-- The footprints of the queries directly inside: those of `WITH`, then all others. -/
def children (f : Footprint) : List Footprint :=
  f.ctes ++ f.subqueries

mutual

/-- A footprint and all that it contains, the outermost first. -/
def parts : Footprint → List Footprint
  | ⟨kind, tables, columns, joins, conditions, ctes, subqueries, text, notices⟩ =>
    ⟨kind, tables, columns, joins, conditions, ctes, subqueries, text, notices⟩ ::
      (partsOfAll ctes ++ partsOfAll subqueries)

def partsOfAll : List Footprint → List Footprint
  | [] => []
  | f :: fs => f.parts ++ partsOfAll fs

end

mutual

/-- The number of levels below a footprint. -/
def nesting : Footprint → Nat
  | ⟨_, _, _, _, _, ctes, subqueries, _, _⟩ => max (nestingOfAll ctes) (nestingOfAll subqueries)

def nestingOfAll : List Footprint → Nat
  | [] => 0
  | f :: fs => max (f.nesting + 1) (nestingOfAll fs)

end

/-! ## Induction on the tree -/

theorem sizeOf_lt_of_mem_children {f g : Footprint} (h : g ∈ f.children) :
    sizeOf g < sizeOf f := by
  cases f with
  | mk kind tables columns joins conditions ctes subqueries text notices =>
    simp only [children, List.mem_append] at h
    rw [mk.sizeOf_spec]
    rcases h with h | h
    · have := List.sizeOf_lt_of_mem h
      omega
    · have := List.sizeOf_lt_of_mem h
      omega

/-- What a footprint inherits from its children holds of every footprint. -/
theorem induct {P : Footprint → Prop} (step : ∀ f, (∀ g ∈ f.children, P g) → P f)
    (f : Footprint) : P f :=
  step f fun g _ ↦ induct step g
termination_by sizeOf f
decreasing_by exact sizeOf_lt_of_mem_children ‹_›

/-- What is the same for the children is the same for each of the two lists of them. -/
theorem map_children_congr {α : Type} {f : Footprint} {φ ψ : Footprint → α}
    (h : ∀ g ∈ f.children, φ g = ψ g) :
    f.ctes.map φ = f.ctes.map ψ ∧ f.subqueries.map φ = f.subqueries.map ψ := by
  refine ⟨List.map_congr_left fun g hg ↦ h g ?_, List.map_congr_left fun g hg ↦ h g ?_⟩
  · exact List.mem_append_left _ hg
  · exact List.mem_append_right _ hg

/-! ## Parts -/

theorem partsOfAll_eq (fs : List Footprint) : partsOfAll fs = fs.flatMap parts := by
  induction fs with
  | nil => rfl
  | cons f fs ih => rw [partsOfAll, ih, List.flatMap_cons]

/-- The parts of a footprint are itself and the parts of its children. -/
theorem parts_eq (f : Footprint) : f.parts = f :: f.children.flatMap parts := by
  cases f
  rw [parts, partsOfAll_eq, partsOfAll_eq, children, List.flatMap_append]

@[simp] theorem mem_parts_self (f : Footprint) : f ∈ f.parts := by
  rw [parts_eq]
  exact List.mem_cons_self

/-- A property of every part is one of the footprint and of every part of its children. -/
theorem forall_parts_iff {P : Footprint → Prop} {f : Footprint} :
    (∀ g ∈ f.parts, P g) ↔ P f ∧ ∀ c ∈ f.children, ∀ g ∈ c.parts, P g := by
  rw [parts_eq, List.forall_mem_cons]
  simp only [List.forall_mem_flatMap]

/-- The parts of a part are parts. -/
theorem parts_subset {f g : Footprint} (h : g ∈ f.parts) : g.parts ⊆ f.parts := by
  induction f using induct with
  | step f ih =>
    rw [parts_eq, List.mem_cons, List.mem_flatMap] at h
    obtain rfl | ⟨c, hc, hg⟩ := h
    · exact List.Subset.refl _
    · intro x hx
      rw [parts_eq f]
      exact List.mem_cons_of_mem _ (List.mem_flatMap.2 ⟨c, hc, ih c hc hg hx⟩)

/-- The columns of a footprint and of all that it contains. -/
def allColumns (f : Footprint) : List ColumnUse :=
  f.parts.flatMap columns

/-! ## Notices -/

theorem noticesOfAll_eq (fs : List Footprint) : noticesOfAll fs = fs.flatMap allNotices := by
  induction fs with
  | nil => rfl
  | cons f fs ih => rw [noticesOfAll, ih, List.flatMap_cons]

theorem allNotices_eq (f : Footprint) :
    f.allNotices = f.notices ++ f.children.flatMap allNotices := by
  cases f
  rw [allNotices, noticesOfAll_eq, noticesOfAll_eq, children, List.flatMap_append,
    List.append_assoc]

/-- The notices of a tree are those of its parts. -/
theorem allNotices_eq_flatMap_parts (f : Footprint) :
    f.allNotices = f.parts.flatMap notices := by
  induction f using induct with
  | step f ih =>
    rw [allNotices_eq, parts_eq, List.flatMap_cons, List.flatMap_assoc, List.flatMap_def,
      List.map_congr_left ih, ← List.flatMap_def]

/-! ## Nesting -/

theorem nestingOfAll_le_iff {fs : List Footprint} {n : Nat} :
    nestingOfAll fs ≤ n ↔ ∀ f ∈ fs, f.nesting < n := by
  induction fs with
  | nil => simp [nestingOfAll]
  | cons f fs ih =>
    rw [nestingOfAll, Nat.max_le, ih, List.forall_mem_cons]
    exact Iff.rfl

/-- A tree has at most `n` levels below its root if its children have fewer. -/
theorem nesting_le_iff {f : Footprint} {n : Nat} :
    f.nesting ≤ n ↔ ∀ c ∈ f.children, c.nesting < n := by
  cases f
  rw [nesting, Nat.max_le, nestingOfAll_le_iff, nestingOfAll_le_iff, children,
    List.forall_mem_append]

theorem nesting_congr {f g : Footprint} (h : g.children = f.children) :
    g.nesting = f.nesting := by
  apply Nat.le_antisymm
  · refine nesting_le_iff.2 fun c hc ↦ ?_
    rw [h] at hc
    exact nesting_le_iff.1 (Nat.le_refl f.nesting) c hc
  · refine nesting_le_iff.2 fun c hc ↦ ?_
    rw [← h] at hc
    exact nesting_le_iff.1 (Nat.le_refl g.nesting) c hc

end SqlFootprint.Footprint
