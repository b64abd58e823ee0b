import SqlFootprint.Proofs.Extraction.LetterCase
import SqlFootprint.Proofs.Validation.Annotation

/-!
# The case of references and validation

Footprints of one shape are judged alike. The look-ups take no notice of the case of ASCII letters:
a qualifier is compared in full lower case, and so is a column with those of a schema. So the case
of the references of a statement makes no difference to what is found out about its columns.
-/

namespace SqlFootprint

theorem Text.foldAscii_eq_star_iff {s : String} : foldAscii s = "*" ↔ s = "*" := by
  have star (c : Char) (h : c.toLower = '*') : c = '*' := by
    obtain same | ⟨n, hn, -, lower⟩ := toLower_eq_or c
    · rw [← same, h]
    · have code : ('*' : Char).toNat = 42 := rfl
      rw [h] at lower
      omega
  constructor
  · intro h
    have letters : s.toList.map Char.toLower = ['*'] := by
      rw [← String.toList_map]
      exact congrArg String.toList h
    obtain ⟨c, hs, hc⟩ := List.map_eq_singleton_iff.1 letters
    rw [← String.ofList_toList (s := s), hs, star c hc]
  · rintro rfl
    exact String.toList_inj.1 (String.toList_map.trans rfl)

theorem ColumnUse.isWildcard_fold (c : ColumnUse) : c.fold.isWildcard = c.isWildcard := by
  rw [Bool.eq_iff_iff, isWildcard, isWildcard, beq_iff_eq, beq_iff_eq]
  exact Text.foldAscii_eq_star_iff

/-! ## Verdicts -/

namespace Verdict

/-- A verdict with the names that it gives in lower case. -/
def fold : Verdict → Verdict
  | unknownColumn column table =>
    unknownColumn (Text.foldAscii column) (table.map Text.foldAscii)
  | ambiguousColumn column candidates => ambiguousColumn (Text.foldAscii column) candidates
  | v => v

theorem isAdoption_fold (v : Verdict) : v.fold.isAdoption = v.isAdoption := by
  cases v <;> rfl

theorem fold_mark (policy : AmbiguityPolicy) (c : ColumnUse) (v : Verdict) :
    (v.mark policy c).fold = (v.fold.mark policy c.fold).fold := by
  cases v with
  | ambiguousColumn column candidates =>
    cases policy <;> simp [mark, fold, ColumnUse.fold, ColumnUse.accept, ColumnUse.unjudged]
  | _ =>
    simp [mark, fold, ColumnUse.fold, ColumnUse.accept, ColumnUse.reject, ColumnUse.unjudged]

end Verdict

namespace Schema

variable (s : Schema) (policy : AmbiguityPolicy)

theorem columnType?_foldAscii (table column : String) :
    s.columnType? table (Text.foldAscii column) = s.columnType? table column := by
  rw [columnType?, columnType?, Text.lower_foldAscii]

theorem columns?_foldAscii (table : String) :
    s.columns? (Text.foldAscii table) = s.columns? table := by
  rw [columns?, columns?, Text.lower_foldAscii]

theorem fold_judgeQualified (table column : String) :
    (s.judgeQualified (Text.foldAscii table) (Text.foldAscii column)).fold =
      (s.judgeQualified table column).fold := by
  have known : s.hasTable (Text.foldAscii table) = s.hasTable table := by
    rw [hasTable, hasTable, columns?_foldAscii]
  have type : s.columnType? (Text.foldAscii table) (Text.foldAscii column) =
      s.columnType? table column := by
    rw [columnType?_foldAscii, columnType?, columnType?, columns?_foldAscii]
  rw [judgeQualified, judgeQualified, known, type]
  split
  · split
    · rfl
    · simp [Verdict.fold]
  · rfl

theorem fold_judge (tables : List TableUse) (c : ColumnUse) :
    (s.judge tables c.fold).fold = (s.judge tables c).fold := by
  obtain ⟨name, table, aliasName, roles, valid, type⟩ := c
  cases table with
  | none =>
    have owners : s.owners (referencedNames tables) (Text.foldAscii name) =
        s.owners (referencedNames tables) name := by
      simp only [Schema.owners, columnType?_foldAscii]
    simp only [judge, ColumnUse.fold, Option.map_none, judgeBare, owners]
    split <;> simp [Verdict.fold]
  | some qualifier =>
    have meant : Text.foldAscii (qualifiedTable tables (Text.foldAscii qualifier)) =
        Text.foldAscii (qualifiedTable tables qualifier) := by
      rw [qualifiedTable, qualifiedTable, Text.lower_foldAscii]
      cases (aliasEntries tables).lookup (Text.lower qualifier) with
      | none => exact Text.foldAscii_foldAscii qualifier
      | some t => rfl
    have twice := s.fold_judgeQualified (qualifiedTable tables (Text.foldAscii qualifier))
      (Text.foldAscii name)
    rw [meant, Text.foldAscii_foldAscii, fold_judgeQualified] at twice
    exact twice.symm

/-! ## Columns -/

theorem fold_judged (tables : List TableUse) (c : ColumnUse) :
    (s.judged policy tables c.fold).fold = (s.judged policy tables c).fold := by
  have twice : c.fold.fold = c.fold := by simp [ColumnUse.fold]
  rw [judged, judged, c.isWildcard_fold]
  split
  · exact twice
  · rw [Verdict.fold_mark, fold_judge, twice, ← Verdict.fold_mark]

theorem fold_judgeColumns (tables : List TableUse) (columns : List ColumnUse) :
    (s.judgeColumns policy tables (columns.map ColumnUse.fold)).1.map ColumnUse.fold =
        (s.judgeColumns policy tables columns).1.map ColumnUse.fold ∧
      (s.judgeColumns policy tables (columns.map ColumnUse.fold)).2.map Verdict.fold =
        (s.judgeColumns policy tables columns).2.map Verdict.fold := by
  have verdicts : (s.judgeAll policy tables (columns.map ColumnUse.fold)).2.map Verdict.fold =
      (s.judgeAll policy tables columns).2.map Verdict.fold := by
    simp only [judgeAll_verdicts, List.filter_map, List.map_map, Function.comp_def,
      ColumnUse.isWildcard_fold, fold_judge]
  have adoptions : (s.judgeAll policy tables (columns.map ColumnUse.fold)).2.any
      Verdict.isAdoption = (s.judgeAll policy tables columns).2.any Verdict.isAdoption := by
    have any := congrArg (List.any · Verdict.isAdoption) verdicts
    simpa only [List.any_map, Function.comp_def, Verdict.isAdoption_fold] using any
  have marked : (s.judgeAll policy tables (columns.map ColumnUse.fold)).1.map ColumnUse.fold =
      (s.judgeAll policy tables columns).1.map ColumnUse.fold := by
    simp only [judgeAll_columns, List.map_map, Function.comp_def, fold_judged]
  refine ⟨?_, verdicts⟩
  simp only [judgeColumns, adoptions]
  split
  · rw [ColumnUse.fold_recordAll, ColumnUse.fold_recordAll, marked]
  · exact marked

/-! ## Trees -/

mutual

theorem annotate_shape : ∀ f : Footprint,
    (s.annotate policy f.shape).1.shape = (s.annotate policy f).1.shape ∧
      (s.annotate policy f.shape).2.map Verdict.fold = (s.annotate policy f).2.map Verdict.fold
  | ⟨kind, tables, columns, joins, conditions, ctes, subqueries, text, notices⟩ => by
    obtain ⟨ctesSame, v⟩ := annotateAll_shapes ctes
    obtain ⟨subqueriesSame, w⟩ := annotateAll_shapes subqueries
    obtain ⟨columnsSame, x⟩ := s.fold_judgeColumns policy tables columns
    have edges : (joins.map JoinEdge.fold).map JoinEdge.fold = joins.map JoinEdge.fold := by
      simp [JoinEdge.fold, Function.comp_def]
    have blank : (conditions.map fun _ ↦ "").map (fun _ ↦ "") = conditions.map fun _ ↦ "" := by
      rw [List.map_map]
      rfl
    simp only [annotate, Footprint.shape, ctesSame, subqueriesSame, columnsSame, edges, blank,
      List.map_append, v, w, x, and_self]

theorem annotateAll_shapes : ∀ fs : List Footprint,
    Footprint.shapes (s.annotateAll policy (Footprint.shapes fs)).1 =
        Footprint.shapes (s.annotateAll policy fs).1 ∧
      (s.annotateAll policy (Footprint.shapes fs)).2.map Verdict.fold =
        (s.annotateAll policy fs).2.map Verdict.fold
  | [] => ⟨rfl, rfl⟩
  | f :: fs => by
    obtain ⟨first, v⟩ := annotate_shape f
    obtain ⟨others, w⟩ := annotateAll_shapes fs
    simp only [Footprint.shapes, annotateAll, first, others, List.map_append, v, w, and_self]

end

end Schema

namespace ValidationSummary

/-- How many columns met which verdict. -/
def counters (s : ValidationSummary) : List Nat :=
  [s.valid, s.invalid, s.unknown, s.ambiguous]

theorem counters_count_fold {s t : ValidationSummary} (h : s.counters = t.counters) (v : Verdict) :
    (s.count v.fold).counters = (t.count v).counters := by
  simp only [counters, List.cons.injEq, and_true] at h ⊢
  obtain ⟨valid, invalid, unknown, ambiguous⟩ := h
  cases v <;> simp only [Verdict.fold, count, valid, invalid, unknown, ambiguous, and_self]

theorem counters_ofVerdicts_map_fold (verdicts : List Verdict) :
    (ofVerdicts (verdicts.map Verdict.fold)).counters = (ofVerdicts verdicts).counters := by
  have counted {s t : ValidationSummary} (h : s.counters = t.counters) :
      ((verdicts.map Verdict.fold).foldl count s).counters = (verdicts.foldl count t).counters := by
    induction verdicts generalizing s t with
    | nil => exact h
    | cons v vs ih => exact ih (counters_count_fold h v)
  exact counted rfl

end ValidationSummary

namespace Footprint

/-- Footprints of one shape have one shape after validation, and its counters are the same. -/
theorem shape_validate_congr {f g : Footprint} (h : f.shape = g.shape) (s : Schema)
    (policy : AmbiguityPolicy) :
    (s.validate policy f).1.shape = (s.validate policy g).1.shape ∧
      (s.validate policy f).2.counters = (s.validate policy g).2.counters := by
  obtain ⟨hf, vf⟩ := s.annotate_shape policy f
  obtain ⟨hg, vg⟩ := s.annotate_shape policy g
  rw [h] at hf vf
  refine ⟨hf.symm.trans hg, ?_⟩
  rw [Schema.validate, Schema.validate, ← ValidationSummary.counters_ofVerdicts_map_fold,
    ← vf, vg, ValidationSummary.counters_ofVerdicts_map_fold]

/-- The case of references makes no difference. Statements that differ in nothing else have
footprints of one shape, at any depth and whatever they are texts of; validated by any schema and
policy they still have, and as many columns are valid, invalid, unknown and ambiguous. -/
theorem shape_congr_of_foldRefs {S T : Sql.Statement} (h : S.foldRefs = T.foldRefs) (limit : Nat)
    (text text' : String) :
    (ofStatement limit S text).shape = (ofStatement limit T text').shape ∧
      ∀ (s : Schema) (policy : AmbiguityPolicy),
        let (f, before) := s.validate policy (ofStatement limit S text)
        let (g, after) := s.validate policy (ofStatement limit T text')
        f.shape = g.shape ∧ before.valid = after.valid ∧ before.invalid = after.invalid ∧
          before.unknown = after.unknown ∧ before.ambiguous = after.ambiguous := by
  have extracted := shape_ofStatement_congr h limit text text'
  refine ⟨extracted, fun s policy ↦ ?_⟩
  obtain ⟨shape, counters⟩ := shape_validate_congr extracted s policy
  obtain ⟨valid, invalid, unknown, ambiguous, -⟩ := by
    simpa only [ValidationSummary.counters, List.cons.injEq] using counters
  exact ⟨shape, valid, invalid, unknown, ambiguous⟩

/-- Two spellings of the sample. -/
theorem shape_congr_of_foldRefs_sample :
    (ofStatement 4 (.query (.spelled "U" "Id" "Total")) "").shape =
      (ofStatement 4 (.query (.spelled "u" "ID" "total")) "").shape := by
  have q : Text.foldAscii "U" = Text.foldAscii "u" := Text.foldAscii_congr (by decide)
  have c : Text.foldAscii "Id" = Text.foldAscii "ID" := Text.foldAscii_congr (by decide)
  have d : Text.foldAscii "Total" = Text.foldAscii "total" := Text.foldAscii_congr (by decide)
  have spellings : (Sql.Statement.query (.spelled "U" "Id" "Total")).foldRefs =
      (Sql.Statement.query (.spelled "u" "ID" "total")).foldRefs := by
    rw [Sql.Statement.foldRefs, Sql.Statement.foldRefs, Sql.Query.foldRefs_spelled,
      Sql.Query.foldRefs_spelled, q, c, d]
  exact (shape_congr_of_foldRefs spellings 4 "" "").1

end Footprint

end SqlFootprint
