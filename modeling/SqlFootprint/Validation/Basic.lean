import SqlFootprint.Diagnosis.Basic
import SqlFootprint.Footprint.Basic
import SqlFootprint.Schema.Basic

/-!
# Validation

The columns of a footprint are judged by a schema. A column with a table is looked up there; one
without is looked up in every table of its footprint and adopted by the only one that defines it.
Nested footprints are judged by their own tables.
-/

namespace SqlFootprint

/-- What becomes of a column that several tables define. -/
inductive AmbiguityPolicy where
  | assumeValid
  | unknown
deriving DecidableEq, Repr, Inhabited

/-- What a schema says on a column. -/
inductive Verdict where
  /-- The schema does not know the table. -/
  | unjudged
  | valid (type : String)
  /-- No table was given, and one table defines the column. -/
  | adopted (table type : String)
  | unknownColumn (column : String) (table : Option String)
  | ambiguousColumn (column : String) (candidates : List String)
deriving DecidableEq, Repr

/-- What is wrong with a column. -/
inductive Issue where
  | unknownColumn (column : String) (table : Option String)
  | ambiguousColumn (column : String) (candidates : List String)
deriving DecidableEq, Repr

namespace Verdict

def isAdoption : Verdict → Bool
  | adopted _ _ => true
  | _ => false

/-- A column with its verdict. -/
def mark (policy : AmbiguityPolicy) (c : ColumnUse) : Verdict → ColumnUse
  | unjudged => c.unjudged
  | valid type => c.accept (some type)
  | adopted table type => { c with table := some table }.accept (some type)
  | unknownColumn _ _ => c.reject
  | ambiguousColumn _ _ =>
    match policy with
    | .assumeValid => c.accept none
    | .unknown => c.unjudged

end Verdict

/-! ## Counting -/

/-- How many columns met which verdict, and what is wrong. -/
structure ValidationSummary where
  valid : Nat := 0
  invalid : Nat := 0
  unknown : Nat := 0
  ambiguous : Nat := 0
  issues : List Issue := []
deriving DecidableEq, Repr, Inhabited

namespace ValidationSummary

/-- Counts a verdict, and lists what is wrong. -/
def count (s : ValidationSummary) : Verdict → ValidationSummary
  | .unjudged => { s with unknown := s.unknown + 1 }
  | .valid _ | .adopted _ _ => { s with valid := s.valid + 1 }
  | .unknownColumn column table =>
    { s with
      invalid := s.invalid + 1
      issues := s.issues ++ [.unknownColumn column table] }
  | .ambiguousColumn column candidates =>
    { s with
      ambiguous := s.ambiguous + 1
      issues := s.issues ++ [.ambiguousColumn column candidates] }

/-- The summary of some verdicts, each of them counted in its turn. -/
def ofVerdicts (verdicts : List Verdict) : ValidationSummary :=
  verdicts.foldl count {}

/-- Whether no column is invalid. -/
def isClean (s : ValidationSummary) : Bool :=
  s.invalid == 0

end ValidationSummary

namespace Issue

def toDiagnostic : Issue → Diagnostic
  | unknownColumn column table =>
    let subject := match table with
      | some table => table ++ "." ++ column
      | none => column
    { code := .schemaUnknownColumn, severity := .error
      message := "Column '" ++ subject ++ "' does not exist in the schema"
      subject := some subject }
  | ambiguousColumn column candidates =>
    { code := .schemaAmbiguousColumn, severity := .warn
      message := "Column '" ++ column ++ "' is ambiguous: defined by " ++
        ", ".intercalate candidates
      subject := some column }

end Issue

/-- What is wrong, in the order of the issues. -/
def ValidationSummary.toDiagnostics (s : ValidationSummary) : List Diagnostic :=
  s.issues.map Issue.toDiagnostic

/-! ## Judging -/

/-- The tables by their names and aliases in lower case. The latest entry comes first. -/
def aliasEntries (tables : List TableUse) : List (String × String) :=
  tables.foldl (fun entries t ↦
    let entries := (Text.lower t.name, t.name) :: entries
    match t.aliasName with
    | some aliasName => (Text.lower aliasName, t.name) :: entries
    | none => entries) []

/-- The table that a qualifier names among the tables of a footprint. -/
def qualifiedTable (tables : List TableUse) (qualifier : String) : String :=
  ((aliasEntries tables).lookup (Text.lower qualifier)).getD qualifier

/-- The names of the tables, once for each name up to the case of ASCII letters. -/
def referencedNames (tables : List TableUse) : List String :=
  tables.foldl (fun names t ↦
    if names.any (Text.sameName · t.name) then names else names ++ [t.name]) []

namespace Schema

/-- The verdict on a column of a given table. -/
def judgeQualified (s : Schema) (table column : String) : Verdict :=
  if s.hasTable table then
    match s.columnType? table column with
    | some type => .valid type
    | none => .unknownColumn column (some table)
  else .unjudged

/-- The tables among some that define a column, with its types. -/
def owners (s : Schema) (tables : List String) (column : String) : List (String × String) :=
  tables.filterMap fun t ↦ (s.columnType? t column).map (t, ·)

/-- The verdict on a column of an unknown table out of some. -/
def judgeBare (s : Schema) (tables : List String) (column : String) : Verdict :=
  match s.owners tables column with
  | [] => .unknownColumn column none
  | [(table, type)] => .adopted table type
  | candidates => .ambiguousColumn column (candidates.map (·.1))

/-- The verdict on a column of a footprint with these tables. -/
def judge (s : Schema) (tables : List TableUse) (c : ColumnUse) : Verdict :=
  match c.table with
  | some qualifier => s.judgeQualified (qualifiedTable tables qualifier) c.name
  | none => s.judgeBare (referencedNames tables) c.name

/-- Judges columns in their order. Wildcards are left alone. -/
def judgeAll (s : Schema) (policy : AmbiguityPolicy) (tables : List TableUse) :
    List ColumnUse → List ColumnUse × List Verdict
  | [] => ([], [])
  | c :: cs =>
    let (columns, verdicts) := s.judgeAll policy tables cs
    if c.isWildcard then (c :: columns, verdicts)
    else
      let v := s.judge tables c
      (v.mark policy c :: columns, v :: verdicts)

/-- Judged columns. Where one was adopted, columns may have come under one key, and are merged. -/
def judgeColumns (s : Schema) (policy : AmbiguityPolicy) (tables : List TableUse)
    (columns : List ColumnUse) : List ColumnUse × List Verdict :=
  let (columns, verdicts) := s.judgeAll policy tables columns
  (if verdicts.any Verdict.isAdoption then ColumnUse.recordAll [] columns else columns, verdicts)

mutual

/-- A footprint with its columns judged, and the verdicts on nested footprints before its own. -/
def annotate (s : Schema) (policy : AmbiguityPolicy) : Footprint → Footprint × List Verdict
  | ⟨kind, tables, columns, joins, conditions, ctes, subqueries, text, notices⟩ =>
    let (ctes, v) := s.annotateAll policy ctes
    let (subqueries, w) := s.annotateAll policy subqueries
    let (columns, x) := s.judgeColumns policy tables columns
    (⟨kind, tables, columns, joins, conditions, ctes, subqueries, text, notices⟩, v ++ w ++ x)

def annotateAll (s : Schema) (policy : AmbiguityPolicy) :
    List Footprint → List Footprint × List Verdict
  | [] => ([], [])
  | f :: fs =>
    let (f, v) := s.annotate policy f
    let (fs, w) := s.annotateAll policy fs
    (f :: fs, v ++ w)

end

/-- A footprint with its columns judged, and a summary of the verdicts. -/
def validate (s : Schema) (policy : AmbiguityPolicy) (f : Footprint) :
    Footprint × ValidationSummary :=
  let (f, verdicts) := s.annotate policy f
  (f, .ofVerdicts verdicts)

end Schema

end SqlFootprint
