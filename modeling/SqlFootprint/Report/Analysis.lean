import SqlFootprint.Report.Basic

/-!
# Analysis into a report

A source text adds its footprints to a report. A text that cannot be read adds one diagnostic;
otherwise each statement adds its notices, then what a schema has against it, then itself.
-/

namespace SqlFootprint

/-- A notice as a diagnostic on a source. -/
def Notice.toDiagnostic (n : Notice) (file : String) : Diagnostic where
  code := match n.kind with
    | .unsupportedConstruct => .sqlUnsupportedConstruct
    | .depthLimitExceeded => .sqlDepthLimit
  severity := .warn
  message := n.message
  location := some ⟨file, none, none⟩

namespace Report

/-- Adds the footprint of a statement with what there is to say on it. -/
def addFootprint (policy : AmbiguityPolicy) (schema : Option Schema) (file : String) (r : Report)
    (f : Footprint) : Report :=
  let r := r.addDiagnostics (f.allNotices.map (·.toDiagnostic file))
  match schema with
  | none => r.addStatement f
  | some s =>
    let (f, summary) := s.validate policy f
    (r.addDiagnostics (summary.toDiagnostics.map (·.at_ ⟨file, none, none⟩))).addStatement f

/-- Analyzes a text and adds the outcome. -/
def addSource (config : Config) (schema : Option Schema) (file text : String) (r : Report) :
    Report :=
  match Footprint.ofAll config text with
  | .error e => r.addDiagnostic (e.toDiagnostic file)
  | .ok footprints => footprints.foldl (addFootprint config.policy schema file) r

/-- The report on one text that is no file. -/
def ofText (config : Config) (schema : Option Schema) (timestamp text : String) : Report :=
  let r := empty timestamp
  let r := match schema with
    | some s => r.withSchema s
    | none => r
  r.addSource config schema inlineSource text

end Report

end SqlFootprint
