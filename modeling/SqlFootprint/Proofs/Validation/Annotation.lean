import SqlFootprint.Proofs.Extraction.WellFormed
import SqlFootprint.Validation.Basic

/-!
# Annotated footprints

Validation keeps the shape of a tree and judges each of its footprints by itself: the parts of an
annotated tree are the annotated parts. Judging a footprint changes its columns only, and leaves it
well-formed, also where columns that were adopted come under a key that is taken.
-/

namespace SqlFootprint

namespace Schema

variable (s : Schema) (policy : AmbiguityPolicy)

/-! ## Columns -/

/-- A column as it is after judging, before any are merged. -/
def judged (tables : List TableUse) (c : ColumnUse) : ColumnUse :=
  if c.isWildcard then c else (s.judge tables c).mark policy c

theorem judgeAll_columns (tables : List TableUse) (columns : List ColumnUse) :
    (s.judgeAll policy tables columns).1 = columns.map (s.judged policy tables) := by
  induction columns with
  | nil => rfl
  | cons c cs ih =>
    simp only [judgeAll, List.map_cons, judged, ← ih]
    split <;> rfl

/-- Only columns that are no wildcards meet a verdict. -/
theorem judgeAll_verdicts (tables : List TableUse) (columns : List ColumnUse) :
    (s.judgeAll policy tables columns).2 =
      (columns.filter (!·.isWildcard)).map (s.judge tables) := by
  induction columns with
  | nil => rfl
  | cons c cs ih =>
    by_cases h : c.isWildcard
    · simp only [judgeAll, h, ih, List.filter_cons, Bool.not_true, if_true, Bool.false_eq_true,
        if_false]
    · simp only [judgeAll, h, ih, List.filter_cons, Bool.not_false, if_true, Bool.false_eq_true,
        if_false, List.map_cons]

/-- Columns under one key are merged only where one was adopted. -/
theorem judgeColumns_columns (tables : List TableUse) (columns : List ColumnUse) :
    (s.judgeColumns policy tables columns).1 =
      if ((columns.filter (!·.isWildcard)).map (s.judge tables)).any Verdict.isAdoption then
        ColumnUse.recordAll [] (columns.map (s.judged policy tables))
      else columns.map (s.judged policy tables) := by
  simp only [judgeColumns, judgeAll_columns, judgeAll_verdicts]

/-- Only an adoption changes the key of a column. -/
theorem foldedKey_judged {tables : List TableUse} {c : ColumnUse}
    (h : ¬c.isWildcard → ¬(s.judge tables c).isAdoption) :
    (s.judged policy tables c).foldedKey = c.foldedKey := by
  unfold judged
  split
  · rfl
  · cases hv : s.judge tables c with
    | unjudged => rfl
    | valid type => rfl
    | adopted table type => exact absurd (by rw [hv]; rfl) (h ‹_›)
    | unknownColumn column table => rfl
    | ambiguousColumn column candidates => cases policy <;> rfl

theorem typedIfValid_mark (c : ColumnUse) (v : Verdict) : (v.mark policy c).TypedIfValid := by
  cases v with
  | unjudged => exact nofun
  | valid type => exact fun _ ↦ rfl
  | adopted table type => exact fun _ ↦ rfl
  | unknownColumn column table => exact nofun
  | ambiguousColumn column candidates =>
    cases policy with
    | assumeValid => exact nofun
    | unknown => exact nofun

theorem typedIfValid_judged (tables : List TableUse) {c : ColumnUse} (h : c.TypedIfValid) :
    (s.judged policy tables c).TypedIfValid := by
  unfold judged
  split
  · exact h
  · exact typedIfValid_mark policy c _

/-- Keys stay apart: either they are the same as before, or the columns are merged by them. -/
theorem nodup_judgeColumns (tables : List TableUse) {columns : List ColumnUse}
    (h : (columns.map ColumnUse.foldedKey).Nodup) :
    ((s.judgeColumns policy tables columns).1.map ColumnUse.foldedKey).Nodup := by
  rw [judgeColumns_columns]
  split
  · exact ColumnUse.nodup_recordAll List.nodup_nil
  · have same : (columns.map (s.judged policy tables)).map ColumnUse.foldedKey =
        columns.map ColumnUse.foldedKey := by
      rw [List.map_map]
      refine List.map_congr_left fun c hc ↦ s.foldedKey_judged policy fun hw hv ↦ ?_
      refine ‹¬ _› (List.any_eq_true.2 ⟨_, List.mem_map_of_mem ?_, hv⟩)
      exact List.mem_filter.2 ⟨hc, by simpa using hw⟩
    rw [same]
    exact h

theorem typedIfValid_judgeColumns (tables : List TableUse) {columns : List ColumnUse}
    (h : ∀ c ∈ columns, c.TypedIfValid) :
    ∀ c ∈ (s.judgeColumns policy tables columns).1, c.TypedIfValid := by
  have marked : ∀ c ∈ columns.map (s.judged policy tables), c.TypedIfValid :=
    List.forall_mem_map.2 fun c hc ↦ s.typedIfValid_judged policy tables (h c hc)
  rw [judgeColumns_columns]
  split
  · exact ColumnUse.TypedIfValid.recordAll (List.forall_mem_nil _) marked
  · exact marked

/-! ## Trees -/

/-- A footprint with its own columns judged. -/
def judgeOwn (f : Footprint) : Footprint :=
  { f with columns := (s.judgeColumns policy f.tables f.columns).1 }

theorem annotateAll_footprints (fs : List Footprint) :
    (s.annotateAll policy fs).1 = fs.map fun f ↦ (s.annotate policy f).1 := by
  induction fs with
  | nil => rfl
  | cons f fs ih => simp only [annotateAll, ih, List.map_cons]

theorem annotate_footprint (f : Footprint) :
    (s.annotate policy f).1 =
      { s.judgeOwn policy f with
        ctes := f.ctes.map fun g ↦ (s.annotate policy g).1
        subqueries := f.subqueries.map fun g ↦ (s.annotate policy g).1 } := by
  cases f
  simp only [annotate, annotateAll_footprints, judgeOwn]

theorem children_annotate (f : Footprint) :
    (s.annotate policy f).1.children = f.children.map fun g ↦ (s.annotate policy g).1 := by
  rw [annotate_footprint, Footprint.children, Footprint.children, List.map_append]

/-- The parts of an annotated tree are the parts of the tree, each annotated. -/
theorem parts_annotate (f : Footprint) :
    (s.annotate policy f).1.parts = f.parts.map fun g ↦ (s.annotate policy g).1 := by
  induction f using Footprint.induct with
  | step f ih =>
    rw [Footprint.parts_eq, Footprint.parts_eq f, children_annotate, List.map_cons,
      List.flatMap_map, List.map_flatMap]
    congr 1
    exact List.flatMap_congr ih

/-- The notices stay as they are. -/
theorem allNotices_annotate (f : Footprint) :
    (s.annotate policy f).1.allNotices = f.allNotices := by
  induction f using Footprint.induct with
  | step f ih =>
    have own : (s.annotate policy f).1.notices = f.notices := by
      rw [annotate_footprint]
      rfl
    rw [Footprint.allNotices_eq, Footprint.allNotices_eq f, own, children_annotate,
      List.flatMap_map]
    congr 1
    exact List.flatMap_congr ih

end Schema

namespace Footprint

variable (s : Schema) (policy : AmbiguityPolicy) {f : Footprint}

theorem WellFormed.annotate (h : f.WellFormed) : (s.annotate policy f).1.WellFormed := by
  rw [s.annotate_footprint]
  exact
    { tables := h.tables
      notices := h.notices
      columns := s.nodup_judgeColumns policy f.tables h.columns
      typed := s.typedIfValid_judgeColumns policy f.tables h.typed }

theorem IsSound.validate (h : f.IsSound) : (s.validate policy f).1.IsSound := by
  intro g hg
  rw [Schema.validate, s.parts_annotate, List.mem_map] at hg
  obtain ⟨part, hp, rfl⟩ := hg
  exact (h part hp).annotate s policy

/-- A footprint after passes of validation, each by its own schema and policy. -/
def validated (passes : List (Schema × AmbiguityPolicy)) (f : Footprint) : Footprint :=
  passes.foldl (fun f pass ↦ (pass.1.validate pass.2 f).1) f

theorem IsSound.validated (passes : List (Schema × AmbiguityPolicy)) (h : f.IsSound) :
    (f.validated passes).IsSound := by
  induction passes generalizing f with
  | nil => exact h
  | cons pass passes ih => exact ih (h.validate pass.1 pass.2)

/-- However often a footprint is validated, by whatever schemas and policies, none of its parts has
two columns of one key, two tables of one identity or two equal notices, and only valid columns
have types. -/
theorem nodup_parts_validated (limit : Nat) (statement : Sql.Statement) (text : String)
    (passes : List (Schema × AmbiguityPolicy)) :
    ∀ f ∈ ((ofStatement limit statement text).validated passes).parts,
      f.columns.Pairwise (fun c d ↦ ¬c.hasKey d.key.1 d.key.2) ∧
      f.tables.Pairwise (fun t u ↦ t.identity ≠ u.identity) ∧
      f.notices.Pairwise (· ≠ ·) ∧
      ∀ c ∈ f.columns, (c.type.isSome → c.valid = some true) ∧
        (c.valid = some false → c.type = none) := by
  intro f hf
  have whole := (isSound_ofStatement limit statement text).validated passes f hf
  refine ⟨ColumnUse.nodup_foldedKey_iff.1 whole.columns, List.pairwise_map.1 whole.tables,
    whole.notices, fun c hc ↦ ⟨whole.typed c hc, fun invalid ↦ ?_⟩⟩
  cases ht : c.type with
  | none => rfl
  | some type =>
    have valid := whole.typed c hc (by rw [ht]; rfl)
    rw [invalid] at valid
    exact absurd valid (by decide)

/-- Where a schema knows the column of the inner query, the sample has a valid column. -/
theorem nodup_parts_validated_sample :
    let schema := Schema.empty.insert ⟨"u", none, [⟨"b", "INT", true, false, false⟩]⟩
    let f := (ofStatement 4 (.query .sample) "").validated [(schema, .unknown)]
    f ∈ f.parts ∧ ∃ c ∈ f.columns, c.type = some "INT" ∧ c.valid = some true := by
  intro schema f
  have typed : ∃ c ∈ f.columns, c.type = some "INT" := by decide +kernel
  obtain ⟨c, hc, ht⟩ := typed
  have whole := nodup_parts_validated 4 (.query .sample) "" [(schema, .unknown)] f f.mem_parts_self
  exact ⟨f.mem_parts_self, c, hc, ht, (whole.2.2.2 c hc).1 (by rw [ht]; rfl)⟩

end Footprint

end SqlFootprint
