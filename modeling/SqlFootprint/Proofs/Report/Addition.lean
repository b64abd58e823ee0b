import Mathlib.Algebra.BigOperators.Group.List.Basic
import Mathlib.Algebra.GroupWithZero.Nat
import SqlFootprint.Proofs.Validation.Counting
import SqlFootprint.Report.Analysis

/-!
# What is added to a report

Footprints and diagnostics come at the end of a report, and its summary counts them. What the
analysis of a text adds is the same for every report, so that the analysis of many texts adds what
that of each one adds, and counts the same in any order.
-/

namespace SqlFootprint

/-- Footprints and diagnostics that are added to a report. -/
structure Addition where
  footprints : List Footprint := []
  diagnostics : List Diagnostic := []

namespace Addition

/-- How many diagnostics of a severity there are. -/
def count (a : Addition) (severity : Severity) : Nat :=
  a.diagnostics.countP (·.severity == severity)

def append (a b : Addition) : Addition :=
  ⟨a.footprints ++ b.footprints, a.diagnostics ++ b.diagnostics⟩

/-- Some additions, one after the other. -/
def join (as : List Addition) : Addition :=
  ⟨as.flatMap footprints, as.flatMap diagnostics⟩

theorem join_cons (a : Addition) (as : List Addition) : join (a :: as) = a.append (join as) := by
  rw [join, List.flatMap_cons, List.flatMap_cons]
  rfl

theorem count_join (as : List Addition) (severity : Severity) :
    (join as).count severity = (as.map (·.count severity)).sum :=
  List.countP_flatMap

end Addition

namespace ReportSummary

variable (s : ReportSummary)

/-- Counts what is added to a report. -/
def add (a : Addition) : ReportSummary :=
  { s with
    statements := s.statements + a.footprints.length
    total := s.total + a.diagnostics.length
    errors := s.errors + a.count .error
    warnings := s.warnings + a.count .warn
    infos := s.infos + a.count .info }

theorem add_append (a b : Addition) : s.add (a.append b) = (s.add a).add b := by
  simp only [add, Addition.append, Addition.count, List.length_append, List.countP_append,
    Nat.add_assoc]

/-- The order of additions does not count. -/
theorem add_join_of_perm {as bs : List Addition} (h : as.Perm bs) :
    s.add (.join as) = s.add (.join bs) := by
  have footprints := h.flatMap_right Addition.footprints
  have diagnostics := h.flatMap_right Addition.diagnostics
  simp only [add, Addition.join, Addition.count, footprints.length_eq, diagnostics.length_eq,
    diagnostics.countP_eq]

end ReportSummary

namespace Report

variable (r : Report)

/-! ## Additions to a report -/

/-- A report with more at its end, all of it counted. -/
def add (a : Addition) : Report :=
  { r with
    statements := r.statements ++ a.footprints
    summary := r.summary.add a
    diagnostics := r.diagnostics ++ a.diagnostics }

theorem add_nothing : r.add {} = r := by
  simp [add, ReportSummary.add, Addition.count]

theorem add_append (a b : Addition) : r.add (a.append b) = (r.add a).add b := by
  rw [add, ReportSummary.add_append]
  simp only [add, Addition.append, List.append_assoc]

theorem foldl_add (as : List Addition) : as.foldl add r = r.add (.join as) := by
  induction as generalizing r with
  | nil => exact r.add_nothing.symm
  | cons a as ih => rw [List.foldl_cons, ih, Addition.join_cons, add_append]

theorem addStatement_eq (f : Footprint) : r.addStatement f = r.add { footprints := [f] } := by
  simp [addStatement, add, ReportSummary.add, Addition.count]

theorem addDiagnostic_eq (d : Diagnostic) : r.addDiagnostic d = r.add { diagnostics := [d] } := by
  cases h : d.severity <;>
    simp [addDiagnostic, add, ReportSummary.add, ReportSummary.count, Addition.count, h]

theorem addDiagnostics_eq (ds : List Diagnostic) :
    r.addDiagnostics ds = r.add { diagnostics := ds } := by
  induction ds generalizing r with
  | nil => exact r.add_nothing.symm
  | cons d ds ih =>
    rw [addDiagnostics, List.foldl_cons, ← addDiagnostics, ih, addDiagnostic_eq, ← add_append]
    rfl

end Report

/-! ## What a statement adds -/

namespace Footprint

variable (policy : AmbiguityPolicy) (schema : Option Schema) (f : Footprint)

/-- A footprint as a schema judges it, with the summary of the verdicts. Without a schema there are
none. -/
def judgedBy : Footprint × ValidationSummary :=
  match schema with
  | none => (f, {})
  | some s => s.validate policy f

theorem allNotices_judgedBy : (f.judgedBy policy schema).1.allNotices = f.allNotices := by
  cases schema with
  | none => rfl
  | some s => exact s.allNotices_annotate policy f

theorem exists_accountsFor_judgedBy : ∃ n, (f.judgedBy policy schema).2.AccountsFor n := by
  cases schema with
  | none => exact ⟨_, ValidationSummary.accountsFor_empty⟩
  | some s => exact ⟨_, ValidationSummary.accountsFor_ofVerdicts _⟩

end Footprint

/-- A footprint with its notices and with what a schema has against it. -/
def Addition.ofFootprint (policy : AmbiguityPolicy) (schema : Option Schema) (file : String)
    (f : Footprint) : Addition where
  footprints := [(f.judgedBy policy schema).1]
  diagnostics := f.allNotices.map (·.toDiagnostic file) ++
    (f.judgedBy policy schema).2.toDiagnostics.map (·.at_ ⟨file, none, none⟩)

theorem Report.addFootprint_eq (policy : AmbiguityPolicy) (schema : Option Schema) (file : String)
    (r : Report) (f : Footprint) :
    r.addFootprint policy schema file f = r.add (.ofFootprint policy schema file f) := by
  have steps : r.addFootprint policy schema file f =
      ((r.addDiagnostics (f.allNotices.map (·.toDiagnostic file))).addDiagnostics
        ((f.judgedBy policy schema).2.toDiagnostics.map (·.at_ ⟨file, none, none⟩))).addStatement
        (f.judgedBy policy schema).1 := by
    cases schema <;> rfl
  rw [steps, addDiagnostics_eq, addDiagnostics_eq, addStatement_eq, ← add_append, ← add_append]
  simp only [Addition.append, Addition.ofFootprint, List.append_nil, List.nil_append]

namespace Addition

theorem countP_notices (file : String) (notices : List Notice) (severity : Severity) :
    (notices.map (·.toDiagnostic file)).countP (·.severity == severity) =
      if severity = .warn then notices.length else 0 := by
  rw [List.countP_map]
  split_ifs with h
  · exact List.countP_eq_length.2 fun n _ ↦ beq_iff_eq.2 h.symm
  · exact List.countP_eq_zero.2 fun n _ same ↦ h (beq_iff_eq.1 same).symm

variable (policy : AmbiguityPolicy) (schema : Option Schema) (file : String)

theorem count_ofFootprint (f : Footprint) (severity : Severity) :
    (ofFootprint policy schema file f).count severity =
      (if severity = .warn then f.allNotices.length else 0) +
        (f.judgedBy policy schema).2.toDiagnostics.countP (·.severity == severity) := by
  rw [count, ofFootprint, List.countP_append, countP_notices, List.countP_map]
  rfl

/-- The errors are the invalid columns, and the warnings the notices of all parts and the ambiguous
columns. -/
theorem counts_ofFootprint (f : Footprint) :
    (ofFootprint policy schema file f).count .error = (f.judgedBy policy schema).2.invalid ∧
      (ofFootprint policy schema file f).count .warn =
        ((f.judgedBy policy schema).1.parts.flatMap Footprint.notices).length +
          (f.judgedBy policy schema).2.ambiguous ∧
      (ofFootprint policy schema file f).count .info = 0 := by
  obtain ⟨n, accounts⟩ := f.exists_accountsFor_judgedBy policy schema
  obtain ⟨errors, warnings, infos⟩ := accounts.countP_severity
  rw [count_ofFootprint, count_ofFootprint, count_ofFootprint, errors, warnings, infos,
    ← Footprint.allNotices_eq_flatMap_parts, f.allNotices_judgedBy]
  exact ⟨Nat.zero_add _, rfl, rfl⟩

/-- An addition that holds judged footprints, with an error for each invalid column and a warning for
each notice of each of their parts and each ambiguous column. -/
structure AccountsFor (a : Addition) (judged : List (Footprint × ValidationSummary)) : Prop where
  footprints : a.footprints = judged.map (·.1)
  errors : a.count .error = (judged.map (·.2.invalid)).sum
  warnings : a.count .warn =
    (judged.map fun j ↦ (j.1.parts.flatMap Footprint.notices).length).sum +
      (judged.map (·.2.ambiguous)).sum
  infos : a.count .info = 0

theorem join_accountsFor (fs : List Footprint) :
    (join (fs.map (ofFootprint policy schema file))).AccountsFor
      (fs.map (·.judgedBy policy schema)) where
  footprints := by
    refine (List.flatMap_map ..).trans ?_
    rw [List.map_map, List.map_eq_flatMap]
    rfl
  errors := by
    rw [count_join, List.map_map, List.map_map]
    exact congrArg List.sum
      (List.map_congr_left fun f _ ↦ (counts_ofFootprint policy schema file f).1)
  warnings := by
    rw [count_join, List.map_map, List.map_map, List.map_map, ← List.sum_map_add]
    exact congrArg List.sum
      (List.map_congr_left fun f _ ↦ (counts_ofFootprint policy schema file f).2.1)
  infos := by
    rw [count_join, List.map_map]
    exact List.sum_eq_zero
      (List.forall_mem_map.2 fun f _ ↦ (counts_ofFootprint policy schema file f).2.2)

end Addition

/-! ## What a text adds -/

/-- A text to analyze, with the name of the file it is from and the schema to judge it by. -/
structure Input where
  schema : Option Schema
  file : String
  text : String

variable (config : Config)

/-- What the analysis of a text adds: one diagnostic, or what its statements add. -/
def Input.addition (i : Input) : Addition :=
  match Source.read config i.text with
  | .error e => { diagnostics := [e.toDiagnostic i.file] }
  | .ok source =>
    .join ((source.footprints config).map (.ofFootprint config.policy i.schema i.file))

namespace Report

/-- Analyzes texts one after the other. -/
def addInputs (r : Report) (inputs : List Input) : Report :=
  inputs.foldl (fun r i ↦ r.addSource config i.schema i.file i.text) r

theorem addSource_eq (r : Report) (i : Input) :
    r.addSource config i.schema i.file i.text = r.add (i.addition config) := by
  unfold addSource Footprint.ofAll Input.addition
  cases Source.read config i.text with
  | error e => exact r.addDiagnostic_eq _
  | ok source =>
    rw [← foldl_add, List.foldl_map]
    simp only [← addFootprint_eq]
    rfl

theorem addInputs_eq (r : Report) (inputs : List Input) :
    r.addInputs config inputs = r.add (.join (inputs.map (·.addition config))) := by
  rw [← foldl_add, List.foldl_map, addInputs]
  simp only [addSource_eq]

end Report

/-- What is to be added for a text: one error if it cannot be read, or else what accounts for the
footprint of each of its statements. -/
def Input.Adds (i : Input) (a : Addition) : Prop :=
  match Source.read config i.text with
  | .error e =>
    a = { diagnostics := [e.toDiagnostic i.file] } ∧ (e.toDiagnostic i.file).severity = .error
  | .ok source =>
    let judged := (source.footprints config).map (·.judgedBy config.policy i.schema)
    judged.length = source.statements.length ∧ a.AccountsFor judged

theorem Input.adds_addition (i : Input) : i.Adds config (i.addition config) := by
  unfold Adds addition
  cases Source.read config i.text with
  | error e =>
    refine ⟨rfl, ?_⟩
    cases e <;> rfl
  | ok source =>
    refine ⟨?_, Addition.join_accountsFor ..⟩
    rw [List.length_map, Source.footprints, List.length_map, List.length_zipIdx]

namespace Report

/-- The order in which texts are analyzed does not count. -/
theorem summary_addInputs_of_perm {inputs inputs' : List Input} (h : inputs.Perm inputs')
    (r : Report) : (r.addInputs config inputs).summary = (r.addInputs config inputs').summary := by
  rw [addInputs_eq, addInputs_eq]
  exact r.summary.add_join_of_perm (h.map _)

/-- The analysis of a text puts the same at the end of every report and leaves the rest. So however
many texts are analyzed, the counts are the same in any order. -/
theorem addSource_composes (i : Input) {inputs inputs' : List Input} (h : inputs.Perm inputs') :
    (∃ a, i.Adds config a ∧
      ∀ r : Report, r.addSource config i.schema i.file i.text = r.add a) ∧
    ∀ r : Report, (r.addInputs config inputs).summary = (r.addInputs config inputs').summary ∧
      (r.addInputs config inputs).hasErrors = (r.addInputs config inputs').hasErrors := by
  refine ⟨⟨i.addition config, i.adds_addition config, fun r ↦ r.addSource_eq config i⟩,
    fun r ↦ ?_⟩
  have counts := r.summary_addInputs_of_perm config h
  exact ⟨counts, by rw [hasErrors, hasErrors, counts]⟩

/-- A text with a column that its schema lacks, and an empty one: either way there is one statement
with two errors. -/
theorem addSource_composes_sample :
    let schema := Schema.empty.insert ⟨"t", none, [{ name := "a", type := "INT" }]⟩
    let i : Input := ⟨some schema, "q.sql", "SELECT a, b FROM t"⟩
    let j : Input := ⟨none, "e.sql", ""⟩
    [i, j].Perm [j, i] ∧
      ((empty "").addInputs {} [i, j]).summary = ⟨1, 0, 2, 2, 0, 0⟩ ∧
      ((empty "").addInputs {} [j, i]).summary = ⟨1, 0, 2, 2, 0, 0⟩ := by
  intro schema i j
  have swapped : [i, j].Perm [j, i] := List.Perm.swap j i []
  have counts : ((empty "").addInputs {} [i, j]).summary = ⟨1, 0, 2, 2, 0, 0⟩ := by
    decide +kernel
  exact ⟨swapped, counts, ((addSource_composes {} i swapped).2 (empty "")).1.symm.trans counts⟩

end Report

end SqlFootprint
