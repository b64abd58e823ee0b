/-!
# Diagnostics

What is wrong with an input, for a reader or a program: a code that never changes, a severity, a
message, and where it is.
-/

namespace SqlFootprint

inductive DiagnosticCode where
  | sqlEmptyInput
  | sqlParseError
  | sqlUnsupportedConstruct
  | sqlDepthLimit
  | schemaUnknownColumn
  | schemaAmbiguousColumn
  | info
  | warning
deriving DecidableEq, Repr, Inhabited

namespace DiagnosticCode

def all : List DiagnosticCode :=
  [sqlEmptyInput, sqlParseError, sqlUnsupportedConstruct, sqlDepthLimit, schemaUnknownColumn,
    schemaAmbiguousColumn, info, warning]

def render : DiagnosticCode → String
  | sqlEmptyInput => "SQL_EMPTY_INPUT"
  | sqlParseError => "SQL_PARSE_ERROR"
  | sqlUnsupportedConstruct => "SQL_UNSUPPORTED_CONSTRUCT"
  | sqlDepthLimit => "SQL_DEPTH_LIMIT"
  | schemaUnknownColumn => "SCHEMA_UNKNOWN_COLUMN"
  | schemaAmbiguousColumn => "SCHEMA_AMBIGUOUS_COLUMN"
  | info => "INFO"
  | warning => "WARNING"

end DiagnosticCode

inductive Severity where
  | info | warn | error
deriving DecidableEq, Repr, Inhabited

namespace Severity

def all : List Severity := [info, warn, error]

def render : Severity → String
  | info => "info"
  | warn => "warn"
  | error => "error"

/-- How grave a severity is. -/
def rank : Severity → Nat
  | info => 0
  | warn => 1
  | error => 2

/-- The least grave first. -/
def sort (severities : List Severity) : List Severity :=
  severities.mergeSort fun a b ↦ a.rank ≤ b.rank

end Severity

structure Location where
  file : String
  line : Option Nat := none
  column : Option Nat := none
deriving DecidableEq, Repr, Inhabited

namespace Location

/-- A place as text. A column without a line is not shown. -/
def render (l : Location) : String :=
  match l.line, l.column with
  | none, _ => l.file
  | some line, none => s!"{l.file}:{line}"
  | some line, some column => s!"{l.file}:{line}:{column}"

end Location

structure Diagnostic where
  code : DiagnosticCode
  severity : Severity
  message : String
  location : Option Location := none
  /-- The column or table that the diagnostic is about. -/
  subject : Option String := none
deriving DecidableEq, Repr, Inhabited

namespace Diagnostic

def at_ (d : Diagnostic) (l : Location) : Diagnostic :=
  { d with location := some l }

end Diagnostic

/-- The name of a source that is no file. -/
def inlineSource : String := "<inline>"

end SqlFootprint
