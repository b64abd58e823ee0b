import SqlFootprint.Analysis.Source
import SqlFootprint.Validation.Basic

/-!
# Reports

The footprints of the statements that were analyzed, the schema they were judged by, and what is
wrong with them. A summary counts all this as it is added.
-/

namespace SqlFootprint

structure ReportVersion where
  major : Nat
  minor : Nat
deriving DecidableEq, Repr, Inhabited

namespace ReportVersion

def current : ReportVersion := ⟨1, 0⟩

def render (v : ReportVersion) : String :=
  toString v.major ++ "." ++ toString v.minor

end ReportVersion

structure ReportSummary where
  statements : Nat := 0
  /-- How many tables the schema has. -/
  schemaTables : Nat := 0
  /-- How many diagnostics there are. -/
  total : Nat := 0
  errors : Nat := 0
  warnings : Nat := 0
  infos : Nat := 0
deriving DecidableEq, Repr, Inhabited

namespace ReportSummary

/-- Counts one more diagnostic of a severity. -/
def count (s : ReportSummary) (severity : Severity) : ReportSummary :=
  let s := { s with total := s.total + 1 }
  match severity with
  | .error => { s with errors := s.errors + 1 }
  | .warn => { s with warnings := s.warnings + 1 }
  | .info => { s with infos := s.infos + 1 }

end ReportSummary

structure Report where
  version : ReportVersion := .current
  /-- When the report was made. -/
  timestamp : String
  summary : ReportSummary := {}
  statements : List Footprint := []
  schema : Option Schema := none
  diagnostics : List Diagnostic := []
deriving Repr, Inhabited

namespace Report

/-- A report on nothing. -/
def empty (timestamp : String) : Report := { timestamp }

def withSchema (r : Report) (s : Schema) : Report :=
  { r with schema := some s, summary := { r.summary with schemaTables := s.count } }

def addStatement (r : Report) (f : Footprint) : Report :=
  { r with
    statements := r.statements ++ [f]
    summary := { r.summary with statements := r.summary.statements + 1 } }

def addDiagnostic (r : Report) (d : Diagnostic) : Report :=
  { r with diagnostics := r.diagnostics ++ [d], summary := r.summary.count d.severity }

def addDiagnostics (r : Report) (diagnostics : List Diagnostic) : Report :=
  diagnostics.foldl addDiagnostic r

def hasErrors (r : Report) : Bool :=
  0 < r.summary.errors

end Report

end SqlFootprint
