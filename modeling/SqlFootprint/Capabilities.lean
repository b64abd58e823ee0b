import SqlFootprint.Text.Case

/-!
# Capabilities

Which constructs footprints are made of, and which are left out.
-/

namespace SqlFootprint

/-- What a grammar and the footprints of its statements cover. -/
structure Capabilities where
  /-- The name of the grammar. -/
  parser : String
  parserVersion : String
  supported : List String
  limitations : List String
deriving DecidableEq, Repr, Inhabited

namespace Capabilities

def current : Capabilities where
  parser := "sqlparser"
  parserVersion := "0.53"
  supported :=
    ["SELECT", "INSERT", "UPDATE", "DELETE", "WITH (non-recursive CTEs)", "UNION / UNION ALL",
      "INNER / LEFT / RIGHT / FULL / CROSS JOIN", "multi-way joins",
      "scalar and correlated subqueries", "derived tables", "window function calls",
      "CASE expressions", "CAST"]
  limitations :=
    ["recursive CTEs", "INTERSECT / EXCEPT", "GROUPING SETS", "window frames (ROWS / RANGE)",
      "SIMILAR TO", "join predicates other than a single column equality"]

/-- Whether a construct is listed as left out, up to the case of ASCII letters. -/
def isLimitation (c : Capabilities) (construct : String) : Bool :=
  c.limitations.any (Text.sameName · construct)

def listing (items : List String) : String :=
  String.join (items.map fun item ↦ "  - " ++ item ++ "\n")

def render (c : Capabilities) : String :=
  c.parser ++ " " ++ c.parserVersion ++ "\n" ++
    "supported:\n" ++ listing c.supported ++
    "not supported:\n" ++ listing c.limitations

end Capabilities

end SqlFootprint
