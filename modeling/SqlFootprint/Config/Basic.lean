import SqlFootprint.Sql.Dialect
import SqlFootprint.Validation.Basic

/-!
# Configuration

The settings of an analysis, each with its default.
-/

namespace SqlFootprint

structure Config where
  dialect : Sql.Dialect := .postgres
  /-- How deep statements, queries and expressions may be nested in a text that is read. -/
  recursionLimit : Nat := 50
  /-- How deep queries and expressions are walked. -/
  maxDepth : Nat := 64
  policy : AmbiguityPolicy := .assumeValid
deriving DecidableEq, Repr, Inhabited

namespace Config

def dialectNames : List (String × Sql.Dialect) :=
  [("postgres", .postgres), ("ansi", .ansi)]

def dialectName : Sql.Dialect → String
  | .postgres => "postgres"
  | .ansi => "ansi"

def policyNames : List (String × AmbiguityPolicy) :=
  [("assume_valid", .assumeValid), ("unknown", .unknown)]

def policyName : AmbiguityPolicy → String
  | .assumeValid => "assume_valid"
  | .unknown => "unknown"

end Config

end SqlFootprint
