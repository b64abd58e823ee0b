import SqlFootprint.Proofs.Report.Addition

/-!
# The summary of a report

The summary of a report is counted up as the report grows. However that happens, it is what a count
of the whole report gives, so that a report has errors exactly if one of its diagnostics is one.
-/

namespace SqlFootprint.Report

/-- What a count of a whole report gives. -/
def recount (r : Report) : ReportSummary where
  statements := r.statements.length
  schemaTables := r.schema.elim 0 fun s ↦ s.tables.length
  total := r.diagnostics.length
  errors := r.diagnostics.countP (·.severity == .error)
  warnings := r.diagnostics.countP (·.severity == .warn)
  infos := r.diagnostics.countP (·.severity == .info)

/-- The summary of a report is right. -/
def IsCounted (r : Report) : Prop :=
  r.summary = r.recount

/-! ## Steps -/

/-- A step that a report grows by. -/
inductive Step where
  | withSchema (s : Schema)
  | addStatement (f : Footprint)
  | addDiagnostic (d : Diagnostic)
  | addDiagnostics (ds : List Diagnostic)
  | addSource (config : Config) (schema : Option Schema) (file text : String)

def step (r : Report) : Step → Report
  | .withSchema s => r.withSchema s
  | .addStatement f => r.addStatement f
  | .addDiagnostic d => r.addDiagnostic d
  | .addDiagnostics ds => r.addDiagnostics ds
  | .addSource config schema file text => r.addSource config schema file text

variable {r : Report}

theorem IsCounted.add (h : r.IsCounted) (a : Addition) : (r.add a).IsCounted := by
  have added : (r.add a).recount = r.recount.add a := by
    simp only [recount, Report.add, ReportSummary.add, Addition.count, List.length_append,
      List.countP_append]
  rw [IsCounted, added, ← h]
  rfl

theorem IsCounted.withSchema (h : r.IsCounted) (s : Schema) : (r.withSchema s).IsCounted := by
  rw [IsCounted, Report.withSchema, h]
  rfl

theorem IsCounted.step (h : r.IsCounted) (step : Step) : (r.step step).IsCounted := by
  cases step with
  | withSchema s => exact h.withSchema s
  | addStatement f =>
    rw [Report.step, addStatement_eq]
    exact h.add _
  | addDiagnostic d =>
    rw [Report.step, addDiagnostic_eq]
    exact h.add _
  | addDiagnostics ds =>
    rw [Report.step, addDiagnostics_eq]
    exact h.add _
  | addSource config schema file text =>
    rw [Report.step, r.addSource_eq config ⟨schema, file, text⟩]
    exact h.add _

/-! ## Runs -/

/-- A report after some steps. -/
def run (r : Report) (steps : List Step) : Report :=
  steps.foldl step r

theorem IsCounted.run (h : r.IsCounted) (steps : List Step) : (r.run steps).IsCounted := by
  induction steps generalizing r with
  | nil => exact h
  | cons step steps ih => exact ih (h.step step)

theorem isCounted_empty (timestamp : String) : (empty timestamp).IsCounted :=
  rfl

theorem IsCounted.hasErrors_iff (h : r.IsCounted) :
    r.hasErrors ↔ ∃ d ∈ r.diagnostics, d.severity = .error := by
  have errors : r.summary.errors = r.diagnostics.countP (·.severity == .error) :=
    congrArg ReportSummary.errors h
  rw [hasErrors, decide_eq_true_iff, errors, List.countP_pos_iff]
  simp only [beq_iff_eq]

/-- However a report is made from nothing, its summary is a count of what is in it. -/
theorem summary_run_eq_recount (timestamp : String) (steps : List Step) :
    let r := (empty timestamp).run steps
    r.summary = r.recount ∧ (r.hasErrors ↔ ∃ d ∈ r.diagnostics, d.severity = .error) := by
  have counted := (isCounted_empty timestamp).run steps
  exact ⟨counted, counted.hasErrors_iff⟩

end SqlFootprint.Report
