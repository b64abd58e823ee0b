import SqlFootprint.Capabilities
import SqlFootprint.Json.Printer
import SqlFootprint.Report.Basic
import SqlFootprint.Wire.Diagnosis
import SqlFootprint.Wire.Footprint
import SqlFootprint.Wire.Schema

/-!
# Reports on the wire
-/

namespace SqlFootprint

namespace ReportVersion

def toJson (v : ReportVersion) : Json :=
  .object [("major", .natural v.major), ("minor", .natural v.minor)]

def ofJson? (j : Json) : Option ReportVersion := do
  let r ← Record.ofJson? 2 j
  return {
    major := ← r.required 0 "major" Json.toHalfWord?
    minor := ← r.required 1 "minor" Json.toHalfWord? }

end ReportVersion

namespace ReportSummary

def toJson (s : ReportSummary) : Json :=
  .object [("statements", .natural s.statements), ("schema_tables", .natural s.schemaTables),
    ("total", .natural s.total), ("errors", .natural s.errors),
    ("warnings", .natural s.warnings), ("info", .natural s.infos)]

def ofJson? (j : Json) : Option ReportSummary := do
  let r ← Record.ofJson? 6 j
  return {
    statements := ← r.required 0 "statements" Json.toWord?
    schemaTables := ← r.required 1 "schema_tables" Json.toWord?
    total := ← r.required 2 "total" Json.toWord?
    errors := ← r.required 3 "errors" Json.toWord?
    warnings := ← r.required 4 "warnings" Json.toWord?
    infos := ← r.required 5 "info" Json.toWord? }

end ReportSummary

namespace Report

def toJson (r : Report) : Json :=
  .object ([("version", r.version.toJson), ("timestamp", .string r.timestamp),
    ("summary", r.summary.toJson),
    ("statements", .array (r.statements.map Footprint.toJson))] ++
    Json.optionalMember "schema" (r.schema.map Schema.toJson) ++
    [("diagnostics", .array (r.diagnostics.map Diagnostic.toJson))])

def ofJson? (j : Json) : Option Report := do
  let r ← Record.ofJson? 6 j
  return {
    version := ← r.required 0 "version" ReportVersion.ofJson?
    timestamp := ← r.required 1 "timestamp" Json.toString?
    summary := ← r.required 2 "summary" ReportSummary.ofJson?
    statements := ← r.required 3 "statements" (Json.toList? Footprint.ofJson?)
    schema := ← r.nullable 4 "schema" Schema.ofJson?
    diagnostics := ← r.required 5 "diagnostics" (Json.toList? Diagnostic.ofJson?) }

/-- The text of a report file. -/
def toText (r : Report) : String :=
  r.toJson.pretty

end Report

namespace Capabilities

def toJson (c : Capabilities) : Json :=
  .object [("parser", .string c.parser), ("parser_version", .string c.parserVersion),
    ("supported", .array (c.supported.map .string)),
    ("limitations", .array (c.limitations.map .string))]

end Capabilities

end SqlFootprint
