import Mathlib.Data.List.Forall2
import Mathlib.Data.List.Perm.Basic
import SqlFootprint.Proofs.Validation.Annotation

/-!
# What a validation counts

Every column of every footprint of a tree meets one verdict, wildcards apart. Each verdict goes into
one of four counts as the walk through the tree comes to it, what is nested before the footprint
itself, and what is wrong is listed once more, in issues and in the diagnostics made of them. No
column is counted twice or passed over, and columns that are merged afterwards have been counted
before. Up to their order, the verdicts on a tree are those on its parts.
-/

namespace SqlFootprint

/-! ## Issues -/

namespace Issue

def isUnknownColumn : Issue → Bool
  | unknownColumn _ _ => true
  | ambiguousColumn _ _ => false

def isAmbiguousColumn (i : Issue) : Bool :=
  !i.isUnknownColumn

/-- An unknown column is an error, and an ambiguous one is not. -/
def severity : Issue → Severity
  | unknownColumn _ _ => .error
  | ambiguousColumn _ _ => .warn

def code : Issue → DiagnosticCode
  | unknownColumn _ _ => .schemaUnknownColumn
  | ambiguousColumn _ _ => .schemaAmbiguousColumn

/-- The column that an issue is about, after its table if that is known. -/
def subject : Issue → String
  | unknownColumn column table => table.elim column (· ++ "." ++ column)
  | ambiguousColumn column _ => column

/-- A diagnostic says what an issue says. -/
structure ReportedBy (i : Issue) (d : Diagnostic) : Prop where
  severity : d.severity = i.severity
  code : d.code = i.code
  subject : d.subject = some i.subject

theorem reportedBy_toDiagnostic (i : Issue) : i.ReportedBy i.toDiagnostic := by
  cases i with
  | unknownColumn column table =>
    refine ⟨rfl, rfl, ?_⟩
    cases table with
    | none => rfl
    | some table => rfl
  | ambiguousColumn column candidates => exact ⟨rfl, rfl, rfl⟩

end Issue

/-- What is wrong by a verdict, if anything is. -/
def Verdict.issue? : Verdict → Option Issue
  | unknownColumn column table => some (.unknownColumn column table)
  | ambiguousColumn column candidates => some (.ambiguousColumn column candidates)
  | unjudged | valid _ | adopted _ _ => none

namespace ValidationSummary

/-! ## Summaries of verdicts -/

/-- A summary accounts for a number of columns: each is in one of the counts, and the invalid and
the ambiguous ones are the issues. -/
structure AccountsFor (s : ValidationSummary) (columns : Nat) : Prop where
  total : s.valid + s.invalid + s.unknown + s.ambiguous = columns
  unknown : s.issues.countP Issue.isUnknownColumn = s.invalid
  ambiguous : s.issues.countP Issue.isAmbiguousColumn = s.ambiguous

variable {s : ValidationSummary} {n : Nat}

theorem accountsFor_empty : AccountsFor {} 0 :=
  ⟨rfl, rfl, rfl⟩

/-- One more verdict accounts for one more column. -/
theorem AccountsFor.count (h : s.AccountsFor n) (v : Verdict) : (s.count v).AccountsFor (n + 1) := by
  obtain ⟨total, unknown, ambiguous⟩ := h
  cases v with
  | unjudged | valid | adopted =>
    refine ⟨?_, unknown, ambiguous⟩
    simp only [ValidationSummary.count]
    omega
  | unknownColumn | ambiguousColumn =>
    refine ⟨?_, ?_, ?_⟩
    · simp only [ValidationSummary.count]
      omega
    · rw [ValidationSummary.count, List.countP_append, unknown]
      rfl
    · rw [ValidationSummary.count, List.countP_append, ambiguous]
      rfl

theorem AccountsFor.foldl (h : s.AccountsFor n) (vs : List Verdict) :
    (vs.foldl ValidationSummary.count s).AccountsFor (n + vs.length) := by
  induction vs generalizing s n with
  | nil => exact h
  | cons v vs ih =>
    have counted := ih (h.count v)
    rwa [Nat.add_assoc, Nat.add_comm 1] at counted

theorem accountsFor_ofVerdicts (vs : List Verdict) : (ofVerdicts vs).AccountsFor vs.length := by
  have counted := accountsFor_empty.foldl vs
  rwa [Nat.zero_add] at counted

theorem issues_foldl (s : ValidationSummary) (vs : List Verdict) :
    (vs.foldl count s).issues = s.issues ++ vs.filterMap Verdict.issue? := by
  induction vs generalizing s with
  | nil => exact (List.append_nil _).symm
  | cons v vs ih =>
    have step : (s.count v).issues = s.issues ++ v.issue?.toList := by
      cases v with
      | unjudged | valid | adopted => exact (List.append_nil _).symm
      | unknownColumn | ambiguousColumn => rfl
    rw [List.foldl_cons, ih, step, List.append_assoc]
    cases h : v.issue? with
    | none => rw [List.filterMap_cons_none h, Option.toList_none, List.nil_append]
    | some i => rw [List.filterMap_cons_some h, Option.toList_some, List.singleton_append]

theorem issues_ofVerdicts (vs : List Verdict) :
    (ofVerdicts vs).issues = vs.filterMap Verdict.issue? :=
  issues_foldl {} vs

theorem invalid_ofVerdicts (vs : List Verdict) :
    (ofVerdicts vs).invalid = vs.countP (·.issue?.any Issue.isUnknownColumn) := by
  rw [← (accountsFor_ofVerdicts vs).unknown, issues_ofVerdicts, List.countP_filterMap]
  refine List.countP_congr fun v _ ↦ ?_
  cases v.issue? with
  | none => rfl
  | some i => rfl

/-- The errors and warnings are as many as the issues of their kind. -/
theorem countP_severity_toDiagnostics (s : ValidationSummary) :
    s.toDiagnostics.countP (·.severity == .error) = s.issues.countP Issue.isUnknownColumn ∧
      s.toDiagnostics.countP (·.severity == .warn) = s.issues.countP Issue.isAmbiguousColumn := by
  rw [toDiagnostics, List.countP_map, List.countP_map]
  constructor
  · refine List.countP_congr fun i _ ↦ ?_
    cases i <;> rfl
  · refine List.countP_congr fun i _ ↦ ?_
    cases i <;> rfl

/-- Every invalid column is an error and every ambiguous one a warning. Nothing is said on others. -/
theorem AccountsFor.countP_severity (h : s.AccountsFor n) :
    s.toDiagnostics.countP (·.severity == .error) = s.invalid ∧
      s.toDiagnostics.countP (·.severity == .warn) = s.ambiguous ∧
      s.toDiagnostics.countP (·.severity == .info) = 0 := by
  obtain ⟨errors, warnings⟩ := s.countP_severity_toDiagnostics
  rw [errors, warnings]
  refine ⟨h.unknown, h.ambiguous, List.countP_eq_zero.2 fun d hd ↦ ?_⟩
  obtain ⟨i, -, rfl⟩ := List.mem_map.1 hd
  cases i <;> exact nofun

theorem reported_toDiagnostics (s : ValidationSummary) :
    List.Forall₂ Issue.ReportedBy s.issues s.toDiagnostics :=
  List.forall₂_map_right_iff.2 (List.forall₂_same.2 fun i _ ↦ i.reportedBy_toDiagnostic)

end ValidationSummary

namespace Schema

variable (s : Schema) (policy : AmbiguityPolicy)

/-! ## Verdicts on a tree -/

/-- The verdicts on the columns of a footprint, without those inside it. -/
def ownVerdicts (f : Footprint) : List Verdict :=
  (f.columns.filter (!·.isWildcard)).map (s.judge f.tables)

theorem annotateAll_verdicts (fs : List Footprint) :
    (s.annotateAll policy fs).2 = fs.flatMap fun f ↦ (s.annotate policy f).2 := by
  induction fs with
  | nil => rfl
  | cons f fs ih => rw [annotateAll, List.flatMap_cons, ← ih]

theorem annotate_verdicts (f : Footprint) :
    (s.annotate policy f).2 =
      (f.children.flatMap fun g ↦ (s.annotate policy g).2) ++ s.ownVerdicts f := by
  cases f
  simp only [annotate, annotateAll_verdicts, judgeColumns, judgeAll_verdicts, Footprint.children,
    List.flatMap_append, ownVerdicts]

/-- The verdicts on a tree are those on its parts. -/
theorem perm_annotate_verdicts (f : Footprint) :
    (s.annotate policy f).2.Perm (f.parts.flatMap s.ownVerdicts) := by
  induction f using Footprint.induct with
  | step f ih =>
    have inside : (f.children.flatMap fun g ↦ (s.annotate policy g).2).Perm
        ((f.children.flatMap Footprint.parts).flatMap s.ownVerdicts) := by
      rw [List.flatMap_assoc]
      exact List.Perm.flatMap_left f.children ih
    rw [annotate_verdicts, Footprint.parts_eq, List.flatMap_cons]
    exact (inside.append_right _).trans List.perm_append_comm

/-- What is counted in each part is counted in the tree. -/
theorem countP_annotate_verdicts {p : Verdict → Bool} {q : ColumnUse → Bool} {f : Footprint}
    {columns : Footprint → List ColumnUse}
    (h : ∀ g ∈ f.parts, (s.ownVerdicts g).countP p = (columns g).countP q) :
    (s.annotate policy f).2.countP p = (f.parts.flatMap columns).countP q := by
  rw [(s.perm_annotate_verdicts policy f).countP_eq, List.countP_flatMap, List.countP_flatMap]
  congr 1
  exact List.map_congr_left h

/-- A summary comes to a footprint by way of the footprints inside it, and goes through its columns
one by one. -/
theorem foldl_count_annotate (summary : ValidationSummary) (f : Footprint) :
    (s.annotate policy f).2.foldl .count summary =
      (f.columns.filter (!·.isWildcard)).foldl (fun summary c ↦ summary.count (s.judge f.tables c))
        (f.children.foldl (fun summary g ↦ (s.annotate policy g).2.foldl .count summary)
          summary) := by
  rw [annotate_verdicts, List.foldl_append, List.foldl_flatMap, ownVerdicts, List.foldl_map]

/-- What a summary accounts for after each of some footprints, it accounts for after all of them. -/
theorem accountsFor_annotateAll {fs : List Footprint} {summary : ValidationSummary} {n : Nat}
    (each : ∀ f ∈ fs, ∀ {summary : ValidationSummary} {n : Nat}, summary.AccountsFor n →
      ((s.annotate policy f).2.foldl .count summary).AccountsFor
        (n + f.allColumns.countP (!·.isWildcard)))
    (h : summary.AccountsFor n) :
    (fs.foldl (fun summary f ↦ (s.annotate policy f).2.foldl .count summary) summary).AccountsFor
      (n + (fs.flatMap (·.allColumns)).countP (!·.isWildcard)) := by
  induction fs generalizing summary n with
  | nil => exact h
  | cons f fs ih =>
    obtain ⟨first, others⟩ := List.forall_mem_cons.1 each
    rw [List.flatMap_cons, List.countP_append, ← Nat.add_assoc]
    exact ih others (first h)

/-- A summary that has gone through a tree accounts for all of its columns that are no wildcards. -/
theorem accountsFor_annotate (f : Footprint) {summary : ValidationSummary} {n : Nat}
    (h : summary.AccountsFor n) :
    ((s.annotate policy f).2.foldl .count summary).AccountsFor
      (n + f.allColumns.countP (!·.isWildcard)) := by
  induction f using Footprint.induct generalizing summary n with
  | step f ih =>
    have own := (s.accountsFor_annotateAll policy (fun g hg _ _ h ↦ ih g hg h) h).foldl
      (s.ownVerdicts f)
    have columns : f.allColumns = f.columns ++ f.children.flatMap (·.allColumns) := by
      rw [Footprint.allColumns, Footprint.parts_eq, List.flatMap_cons, List.flatMap_assoc]
      rfl
    have length : (s.ownVerdicts f).length = f.columns.countP (!·.isWildcard) := by
      rw [ownVerdicts, List.length_map, List.countP_eq_length_filter]
    rw [length, Nat.add_assoc, Nat.add_comm (List.countP ..), ← List.countP_append, ← columns] at own
    rw [foldl_count_annotate, ← List.foldl_map]
    exact own

/-- A validation counts every column of a tree once that is no wildcard. The invalid and the
ambiguous ones are its issues, and these make errors and warnings in the same order. -/
theorem validate_accounts (f : Footprint) :
    let summary := (s.validate policy f).2
    summary.valid + summary.invalid + summary.unknown + summary.ambiguous =
      f.allColumns.countP (!·.isWildcard) ∧
    (summary.issues.countP Issue.isUnknownColumn = summary.invalid ∧
      summary.issues.countP Issue.isAmbiguousColumn = summary.ambiguous) ∧
    (summary.toDiagnostics.countP (·.severity == .error) = summary.invalid ∧
      summary.toDiagnostics.countP (·.severity == .warn) = summary.ambiguous) ∧
    List.Forall₂ Issue.ReportedBy summary.issues summary.toDiagnostics := by
  intro summary
  have accounts : summary.AccountsFor (f.allColumns.countP (!·.isWildcard)) := by
    have counted := s.accountsFor_annotate policy f ValidationSummary.accountsFor_empty
    rwa [Nat.zero_add] at counted
  obtain ⟨errors, warnings, -⟩ := accounts.countP_severity
  exact ⟨accounts.total, ⟨accounts.unknown, accounts.ambiguous⟩, ⟨errors, warnings⟩,
    summary.reported_toDiagnostics⟩

end Schema

end SqlFootprint
