import SqlFootprint.Text.Case

/-!
# Uses of tables

A relation that a statement reads or writes. Its identity is its name with its alias, so the same
table may be used twice under two names.
-/

namespace SqlFootprint

/-- A relation named in a statement. A common table expression or derived table stands under its
alias. -/
structure TableUse where
  name : String
  aliasName : Option String := none
  /-- The name before the table, such as `public` in `public.users`. -/
  schema : Option String := none
deriving DecidableEq, Repr, Inhabited

namespace TableUse

/-- The part of a use that tells it from others. -/
def identity (t : TableUse) : String × Option String :=
  (t.name, t.aliasName)

def hasAlias (t : TableUse) (qualifier : String) : Bool :=
  t.aliasName.any (Text.sameName · qualifier)

def hasName (t : TableUse) (qualifier : String) : Bool :=
  Text.sameName t.name qualifier

/-- Adds a use unless one of the same identity is there. -/
def insert (tables : List TableUse) (t : TableUse) : List TableUse :=
  if tables.any (·.identity == t.identity) then tables else tables ++ [t]

/-- The use that a qualifier means: the first with that alias, or else the first with that
name. -/
def find? (tables : List TableUse) (qualifier : String) : Option TableUse :=
  (tables.find? (·.hasAlias qualifier)).or (tables.find? (·.hasName qualifier))

end TableUse

end SqlFootprint
