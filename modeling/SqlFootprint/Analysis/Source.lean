import SqlFootprint.Config.Basic
import SqlFootprint.Diagnosis.SourceError
import SqlFootprint.Extraction.Walk
import SqlFootprint.Schema.Definition
import SqlFootprint.Sql.Parser.Script
import SqlFootprint.Text.Blank

/-!
# Source texts

A text with the statements that were read from it. Each statement has a text of its own, and a
footprint.
-/

namespace SqlFootprint

/-- A text and its statements, of which there is at least one. -/
structure Source where
  text : String
  statements : List Sql.Statement

namespace Source

/-- What is wrong with a text that cannot be read. -/
def syntaxError (fault : Sql.SyntaxFault) : SourceError :=
  .ofMessage ("sql parser error: " ++ fault.message)

/-- Reads a text. One without statements is as good as an empty one. -/
def read (config : Config) (text : String) : Except SourceError Source :=
  if Text.isBlankText text then .error .empty
  else
    match Sql.parse config.dialect config.recursionLimit text with
    | .error fault => .error (syntaxError fault)
    | .ok [] => .error .empty
    | .ok statements => .ok ⟨text, statements⟩

/-- The text of the only statement of a source: the semicolons at its end are taken off once. -/
def soleText (text : String) : String :=
  Text.stripEnd Text.isBlank (Text.stripEnd (· == ';') (Text.trim text))

/-- The text of a statement by its index. A sole statement keeps what was written; out of several
each one is printed. -/
def statementText (s : Source) (index : Nat) : String :=
  match s.statements with
  | [_] => soleText s.text
  | statements => (statements[index]?.map Sql.Statement.render).getD ""

/-- The footprint of each statement. -/
def footprints (config : Config) (s : Source) : List Footprint :=
  s.statements.zipIdx.map fun (statement, i) ↦
    .ofStatement config.maxDepth statement (s.statementText i)

/-- The footprint of the first statement. -/
def firstFootprint? (config : Config) (s : Source) : Option Footprint :=
  s.statements.head?.map fun statement ↦
    .ofStatement config.maxDepth statement (s.statementText 0)

end Source

namespace Footprint

/-- The footprint of the first statement of a text. -/
def ofFirst (config : Config) (text : String) : Except SourceError Footprint := do
  match (← Source.read config text).firstFootprint? config with
  | some f => .ok f
  | none => .error .empty

/-- The footprints of all statements of a text. -/
def ofAll (config : Config) (text : String) : Except SourceError (List Footprint) := do
  return (← Source.read config text).footprints config

end Footprint

/-- The schema that the statements of a text declare. -/
def Schema.ofText (config : Config) (text : String) : Except SourceError Schema := do
  return .ofStatements (← Source.read config text).statements

end SqlFootprint
