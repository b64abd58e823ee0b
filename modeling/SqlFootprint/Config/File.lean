import SqlFootprint.Config.Basic
import SqlFootprint.Toml.Document

/-!
# Configuration files

A configuration is kept as a Toml document with a table for extraction and one for validation.
Whole numbers in such a document have 63 bits and a sign, so not every configuration can be kept.
-/

namespace SqlFootprint

namespace Toml

/-- A word out of a list of words. It may also be the name of a single entry that is empty. -/
def toChoice? {α : Type} (choices : List (String × α)) : Toml → Option α
  | .string s => choices.lookup s
  | .table [(s, .table [])] => choices.lookup s
  | .table [(s, .array [])] => choices.lookup s
  | _ => none

def toNat? : Toml → Option Nat
  | .integer (.ofNat n) => some n
  | _ => none

/-- The first field of a record, which has a default. The record is a table or an array; a time
stands for a record without fields. -/
def firstField? {α : Type} (name : String) (read : Toml → Option α) (default : α) :
    Toml → Option α
  | .table entries =>
    match entries.lookup name with
    | some v => read v
    | none => some default
  | .array (v :: _) => read v
  | .array [] => some default
  | .time _ => some default
  | _ => none

end Toml

namespace Config

/-- A configuration out of the entries of a document. Further entries do not matter. -/
def ofEntries? (entries : List (String × Toml)) : Option Config := do
  let base : Config := {}
  let field {α : Type} (name : String) (read : Toml → Option α) (default : α) : Option α :=
    match entries.lookup name with
    | some v => read v
    | none => some default
  return {
    dialect := ← field "dialect" (Toml.toChoice? dialectNames) base.dialect
    recursionLimit := ← field "recursion_limit" Toml.toNat? base.recursionLimit
    maxDepth := ← field "extraction" (Toml.firstField? "max_depth" Toml.toNat? base.maxDepth)
      base.maxDepth
    policy := ← field "validation"
      (Toml.firstField? "ambiguous_columns" (Toml.toChoice? policyNames) base.policy) base.policy }

/-- Reads a configuration file. -/
def ofText? (text : String) : Option Config :=
  (Toml.parse? text).bind ofEntries?

/-- Whether the numbers of a configuration can be kept in a file. -/
def isStorable (c : Config) : Bool :=
  c.recursionLimit < 0x8000000000000000 && c.maxDepth < 0x8000000000000000

/-- The text of a configuration file. -/
def toText? (c : Config) : Option String :=
  if c.isStorable then
    some ("dialect = \"" ++ dialectName c.dialect ++ "\"\n" ++
      "recursion_limit = " ++ toString c.recursionLimit ++ "\n\n" ++
      "[extraction]\nmax_depth = " ++ toString c.maxDepth ++ "\n\n" ++
      "[validation]\nambiguous_columns = \"" ++ policyName c.policy ++ "\"\n")
  else none

end Config

end SqlFootprint
