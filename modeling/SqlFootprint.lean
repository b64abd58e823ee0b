import SqlFootprint.Analysis.Source
import SqlFootprint.Capabilities
import SqlFootprint.CommandLine.Arguments
import SqlFootprint.CommandLine.Files
import SqlFootprint.CommandLine.Request
import SqlFootprint.CommandLine.Run
import SqlFootprint.CommandLine.Style
import SqlFootprint.CommandLine.Summary
import SqlFootprint.Config.Basic
import SqlFootprint.Config.File
import SqlFootprint.Config.Storage
import SqlFootprint.Diagnosis.Basic
import SqlFootprint.Diagnosis.SourceError
import SqlFootprint.Extraction.Condition
import SqlFootprint.Extraction.Scope
import SqlFootprint.Extraction.Walk
import SqlFootprint.Footprint.Basic
import SqlFootprint.Footprint.ColumnUse
import SqlFootprint.Footprint.TableUse
import SqlFootprint.Json.Basic
import SqlFootprint.Json.Printer
import SqlFootprint.Json.Reader
import SqlFootprint.Main
import SqlFootprint.Proofs.CommandLine.Analysis
import SqlFootprint.Proofs.CommandLine.Files
import SqlFootprint.Proofs.CommandLine.Sources
import SqlFootprint.Proofs.CommandLine.Steps
import SqlFootprint.Proofs.Config.File
import SqlFootprint.Proofs.Diagnosis.Position
import SqlFootprint.Proofs.Extraction.Appending
import SqlFootprint.Proofs.Extraction.Branches
import SqlFootprint.Proofs.Extraction.Chains
import SqlFootprint.Proofs.Extraction.Comparisons
import SqlFootprint.Proofs.Extraction.Composed
import SqlFootprint.Proofs.Extraction.Composition
import SqlFootprint.Proofs.Extraction.Conditions
import SqlFootprint.Proofs.Extraction.Depth
import SqlFootprint.Proofs.Extraction.Edges
import SqlFootprint.Proofs.Extraction.Effect
import SqlFootprint.Proofs.Extraction.Enclosing
import SqlFootprint.Proofs.Extraction.Exposure
import SqlFootprint.Proofs.Extraction.Findings
import SqlFootprint.Proofs.Extraction.Growth
import SqlFootprint.Proofs.Extraction.Joins
import SqlFootprint.Proofs.Extraction.Leaves
import SqlFootprint.Proofs.Extraction.LetterCase
import SqlFootprint.Proofs.Extraction.Nesting
import SqlFootprint.Proofs.Extraction.Outline
import SqlFootprint.Proofs.Extraction.Qualification
import SqlFootprint.Proofs.Extraction.Recording
import SqlFootprint.Proofs.Extraction.Scoping
import SqlFootprint.Proofs.Extraction.Sightings
import SqlFootprint.Proofs.Extraction.Stepwise
import SqlFootprint.Proofs.Extraction.Tables
import SqlFootprint.Proofs.Extraction.WellFormed
import SqlFootprint.Proofs.Extraction.Writes
import SqlFootprint.Proofs.Footprint.Classes
import SqlFootprint.Proofs.Footprint.Findings
import SqlFootprint.Proofs.Footprint.Merging
import SqlFootprint.Proofs.Footprint.Roles
import SqlFootprint.Proofs.Footprint.Shape
import SqlFootprint.Proofs.Footprint.Tree
import SqlFootprint.Proofs.Footprint.WellFormed
import SqlFootprint.Proofs.Json.Reading
import SqlFootprint.Proofs.Json.Words
import SqlFootprint.Proofs.Report.Addition
import SqlFootprint.Proofs.Report.Recount
import SqlFootprint.Proofs.Schema.Declaration
import SqlFootprint.Proofs.Schema.Insertion
import SqlFootprint.Proofs.Schema.Lookup
import SqlFootprint.Proofs.Schema.NameMap
import SqlFootprint.Proofs.Sql.Comparisons
import SqlFootprint.Proofs.Sql.LetterCase
import SqlFootprint.Proofs.Sql.Outline
import SqlFootprint.Proofs.Sql.Qualifiers
import SqlFootprint.Proofs.Sql.References
import SqlFootprint.Proofs.Sql.Relations
import SqlFootprint.Proofs.Sql.Rewriting
import SqlFootprint.Proofs.Sql.Sightings
import SqlFootprint.Proofs.Text.Case
import SqlFootprint.Proofs.Text.Runs
import SqlFootprint.Proofs.Toml.Document
import SqlFootprint.Proofs.Toml.Reading
import SqlFootprint.Proofs.Toml.Scalar
import SqlFootprint.Proofs.Validation.Agreement
import SqlFootprint.Proofs.Validation.Ambiguity
import SqlFootprint.Proofs.Validation.Annotation
import SqlFootprint.Proofs.Validation.Candidates
import SqlFootprint.Proofs.Validation.Conservation
import SqlFootprint.Proofs.Validation.Counting
import SqlFootprint.Proofs.Validation.LetterCase
import SqlFootprint.Proofs.Validation.Qualification
import SqlFootprint.Proofs.Validation.Relevance
import SqlFootprint.Proofs.Validation.Resolution
import SqlFootprint.Proofs.Validation.Stability
import SqlFootprint.Proofs.Validation.Virtual
import SqlFootprint.Proofs.Wire.Footprint
import SqlFootprint.Proofs.Wire.Record
import SqlFootprint.Proofs.Wire.Report
import SqlFootprint.Report.Analysis
import SqlFootprint.Report.Basic
import SqlFootprint.Schema.Basic
import SqlFootprint.Schema.Definition
import SqlFootprint.Schema.NameMap
import SqlFootprint.Sql.DataType
import SqlFootprint.Sql.Dialect
import SqlFootprint.Sql.Ident
import SqlFootprint.Sql.Keyword
import SqlFootprint.Sql.Lexer
import SqlFootprint.Sql.Literal
import SqlFootprint.Sql.Parser.Alteration
import SqlFootprint.Sql.Parser.Attachment
import SqlFootprint.Sql.Parser.Basic
import SqlFootprint.Sql.Parser.Call
import SqlFootprint.Sql.Parser.Creation
import SqlFootprint.Sql.Parser.Cursor
import SqlFootprint.Sql.Parser.Definition
import SqlFootprint.Sql.Parser.Expr
import SqlFootprint.Sql.Parser.Grammar
import SqlFootprint.Sql.Parser.Item
import SqlFootprint.Sql.Parser.Merge
import SqlFootprint.Sql.Parser.Phrase
import SqlFootprint.Sql.Parser.Query
import SqlFootprint.Sql.Parser.Removal
import SqlFootprint.Sql.Parser.Right
import SqlFootprint.Sql.Parser.Routine
import SqlFootprint.Sql.Parser.RowPattern
import SqlFootprint.Sql.Parser.Script
import SqlFootprint.Sql.Parser.Setting
import SqlFootprint.Sql.Parser.Show
import SqlFootprint.Sql.Parser.Source
import SqlFootprint.Sql.Parser.Transaction
import SqlFootprint.Sql.Parser.Transfer
import SqlFootprint.Sql.Parser.Type
import SqlFootprint.Sql.Parser.Upkeep
import SqlFootprint.Sql.Parser.Value
import SqlFootprint.Sql.Parser.Write
import SqlFootprint.Sql.Render
import SqlFootprint.Sql.SyntaxFault
import SqlFootprint.Sql.Token
import SqlFootprint.Sql.Tree
import SqlFootprint.Text.Blank
import SqlFootprint.Text.Case
import SqlFootprint.Text.CaseTable
import SqlFootprint.Text.Digit
import SqlFootprint.Text.Letter
import SqlFootprint.Text.Shown
import SqlFootprint.Toml.Basic
import SqlFootprint.Toml.Document
import SqlFootprint.Toml.Scalar
import SqlFootprint.Validation.Basic
import SqlFootprint.Wire.Config
import SqlFootprint.Wire.Diagnosis
import SqlFootprint.Wire.Footprint
import SqlFootprint.Wire.Record
import SqlFootprint.Wire.Report
import SqlFootprint.Wire.Schema
