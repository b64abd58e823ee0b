import SqlFootprint.Diagnosis.SourceError
import SqlFootprint.Validation.Basic
import SqlFootprint.Wire.Record

/-!
# Diagnostics on the wire

Places and their lines and columns are written as null where they are unknown; a subject is left
out.
-/

namespace SqlFootprint

namespace DiagnosticCode

def ofJson? : Json → Option DiagnosticCode :=
  Json.toChoice? (all.map fun c ↦ (c.render, c))

end DiagnosticCode

namespace Severity

def ofJson? : Json → Option Severity :=
  Json.toChoice? (all.map fun s ↦ (s.render, s))

end Severity

namespace Location

def toJson (l : Location) : Json :=
  .object [("file", .string l.file), ("line", Json.orNull (l.line.map .natural)),
    ("column", Json.orNull (l.column.map .natural))]

def ofJson? (j : Json) : Option Location := do
  let r ← Record.ofJson? 3 j
  return {
    file := ← r.required 0 "file" Json.toString?
    line := ← r.nullable 1 "line" Json.toWord?
    column := ← r.nullable 2 "column" Json.toWord? }

end Location

namespace Diagnostic

def toJson (d : Diagnostic) : Json :=
  .object ([("code", .string d.code.render), ("severity", .string d.severity.render),
    ("message", .string d.message),
    ("location", Json.orNull (d.location.map Location.toJson))] ++
    Json.optionalMember "subject" (d.subject.map .string))

def ofJson? (j : Json) : Option Diagnostic := do
  let r ← Record.ofJson? 5 j
  return {
    code := ← r.required 0 "code" DiagnosticCode.ofJson?
    severity := ← r.required 1 "severity" Severity.ofJson?
    message := ← r.required 2 "message" Json.toString?
    location := ← r.nullable 3 "location" Location.ofJson?
    subject := ← r.optional 4 "subject" Json.toString? }

end Diagnostic

namespace SourceError

/-- An error by its kind, with its place. -/
def toJson : SourceError → Json
  | empty => .object [("kind", .string "EmptyInput")]
  | malformed message position =>
    .object [("kind", .string "Syntax"), ("message", .string message),
      ("line", Json.orNull (position.map (.natural ·.1))),
      ("column", Json.orNull (position.map (.natural ·.2)))]

end SourceError

namespace Issue

def toJson : Issue → Json
  | unknownColumn column table =>
    .object [("kind", .string "unknown_column"), ("column", .string column),
      ("table", Json.orNull (table.map .string))]
  | ambiguousColumn column candidates =>
    .object [("kind", .string "ambiguous_column"), ("column", .string column),
      ("candidates", .array (candidates.map .string))]

end Issue

namespace ValidationSummary

def toJson (s : ValidationSummary) : Json :=
  .object [("valid", .natural s.valid), ("invalid", .natural s.invalid),
    ("unknown", .natural s.unknown), ("ambiguous", .natural s.ambiguous),
    ("issues", .array (s.issues.map Issue.toJson))]

end ValidationSummary

end SqlFootprint
