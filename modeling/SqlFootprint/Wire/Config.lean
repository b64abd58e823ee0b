import SqlFootprint.Config.Basic
import SqlFootprint.Wire.Record

/-!
# Configurations on the wire

Every field has its default. The depth of extraction and the policy of validation stand in records
of their own.
-/

namespace SqlFootprint.Config

def toJson (c : Config) : Json :=
  .object [("dialect", .string (dialectName c.dialect)),
    ("recursion_limit", .natural c.recursionLimit),
    ("extraction", .object [("max_depth", .natural c.maxDepth)]),
    ("validation", .object [("ambiguous_columns", .string (policyName c.policy))])]

/-- The only field of a record, which has a default. -/
def soleField? {α : Type} (name : String) (read : Json → Option α) (default : α) (j : Json) :
    Option α := do
  (← Record.ofJson? 1 j).withDefault 0 name read default

def ofJson? (j : Json) : Option Config := do
  let base : Config := {}
  let r ← Record.ofJson? 4 j
  return {
    dialect := ← r.withDefault 0 "dialect" (Json.toChoice? dialectNames) base.dialect
    recursionLimit := ← r.withDefault 1 "recursion_limit" Json.toWord? base.recursionLimit
    maxDepth := ← r.withDefault 2 "extraction"
      (soleField? "max_depth" Json.toWord? base.maxDepth) base.maxDepth
    policy := ← r.withDefault 3 "validation"
      (soleField? "ambiguous_columns" (Json.toChoice? policyNames) base.policy) base.policy }

end SqlFootprint.Config
