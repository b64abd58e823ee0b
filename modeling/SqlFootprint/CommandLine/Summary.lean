import SqlFootprint.CommandLine.Style
import SqlFootprint.Report.Basic

/-!
# Reports for people

A report as text: the statements with their joins and unknown columns, the counts, and the
diagnostics.
-/

namespace SqlFootprint.CommandLine

open Style

def rule (colour : Bool) : String :=
  brightBlue.paint colour (.ofList (List.replicate 60 '='))

/-- A column with its table. -/
def qualifiedName (c : ColumnUse) : String :=
  match c.table with
  | some table => table ++ "." ++ c.name
  | none => c.name

def joinLine (colour : Bool) (j : JoinEdge) : String :=
  "       " ++ cyan.paint colour j.kind.render ++ " " ++ j.leftTable ++ "." ++ j.leftColumn ++
    " = " ++ j.rightTable ++ "." ++ j.rightColumn

/-- The lines on a statement, which has a number. -/
def statementLines (colour : Bool) (number : Nat) (f : Footprint) : List String :=
  let invalid := f.columns.filter (·.valid == some false)
  ["  " ++ toString number ++ ". " ++ green.paint colour f.kind.render ++
    " [" ++ ", ".intercalate f.tableNames ++ "]" ++
    " columns: " ++ toString f.columns.length ++
    ", joins: " ++ toString f.joins.length ++
    ", conditions: " ++ toString f.conditions.length] ++
  f.joins.map (joinLine colour) ++
  if invalid.isEmpty then [] else
    ["       " ++ red.paint colour "unknown columns:" ++ " " ++
      ", ".intercalate (invalid.map qualifiedName)]

/-- A count in one style if it is zero and in another one if it is not. -/
def countText (colour : Bool) (some_ : Style) (n : Nat) : String :=
  (if 0 < n then some_ else green).paint colour (toString n)

def summaryLines (colour : Bool) (r : Report) : List String :=
  ["  Statements: " ++ toString r.summary.statements] ++
  (if r.schema.isSome then ["  Schema tables: " ++ toString r.summary.schemaTables] else []) ++
  ["  Total diagnostics: " ++ toString r.summary.total,
    "  Errors:   " ++ countText colour boldRed r.summary.errors,
    "  Warnings: " ++ countText colour yellow r.summary.warnings,
    "  Info:     " ++ toString r.summary.infos]

def severityText (colour : Bool) : Severity → String
  | .error => boldRed.paint colour "ERROR"
  | .warn => boldYellow.paint colour "WARN"
  | .info => cyan.paint colour "INFO"

def diagnosticLines (colour : Bool) (d : Diagnostic) : List String :=
  ["  [" ++ severityText colour d.severity ++ "] " ++ d.code.render ++ ": " ++ d.message] ++
  match d.location with
  | some l => ["    at " ++ l.render]
  | none => []

/-- The text of a report for people. -/
def reportText (colour : Bool) (r : Report) : String :=
  let lines :=
    ["", rule colour, boldBrightBlue.paint colour "SQL Fact Extraction Report", rule colour, "",
      "Version: " ++ r.version.render, "Timestamp: " ++ r.timestamp, "",
      bold.paint colour "Statements:"] ++
    r.statements.zipIdx.flatMap (fun (f, i) ↦ statementLines colour (i + 1) f) ++
    ["", bold.paint colour "Summary:"] ++ summaryLines colour r ++ [""] ++
    (if r.diagnostics.isEmpty then [boldGreen.paint colour "✓ No issues found!"]
      else bold.paint colour "Diagnostics:" :: r.diagnostics.flatMap (diagnosticLines colour)) ++
    ["", rule colour]
  String.join (lines.map (· ++ "\n"))

end SqlFootprint.CommandLine
