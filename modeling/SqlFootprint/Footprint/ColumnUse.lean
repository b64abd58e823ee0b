import SqlFootprint.Text.Case

/-!
# Uses of columns

A column with the roles that it plays in a statement. Two uses are one if table and name agree up
to the case of ASCII letters; merging them joins their roles and keeps what was said first.
-/

namespace SqlFootprint

/-- What a statement does with a column at one place. -/
inductive Role where
  | selected
  /-- One side of an equality that joins two relations. -/
  | joined
  /-- A use in `WHERE`, `GROUP BY`, `HAVING` or `ORDER BY`. -/
  | filtered
  | modified
  /-- A mention that is none of the others. -/
  | mentioned
deriving DecidableEq, Repr

/-- The roles that a column plays. A mere mention leaves no mark. -/
structure Roles where
  selected : Bool := false
  joined : Bool := false
  filtered : Bool := false
  modified : Bool := false
deriving DecidableEq, Repr, Inhabited

namespace Roles

def add (r : Roles) : Role → Roles
  | .selected => { r with selected := true }
  | .joined => { r with joined := true }
  | .filtered => { r with filtered := true }
  | .modified => { r with modified := true }
  | .mentioned => r

def ofRole (role : Role) : Roles :=
  ({} : Roles).add role

def union (r s : Roles) : Roles :=
  ⟨r.selected || s.selected, r.joined || s.joined, r.filtered || s.filtered,
    r.modified || s.modified⟩

end Roles

/-- A column as a statement uses it. -/
structure ColumnUse where
  name : String
  /-- The table that owns the column, or a qualifier that names no known table. -/
  table : Option String := none
  aliasName : Option String := none
  roles : Roles := {}
  /-- Whether a schema knows the column; open until a schema that knows the table is asked. -/
  valid : Option Bool := none
  type : Option String := none
deriving DecidableEq, Repr, Inhabited

namespace ColumnUse

/-- The table and the name. A column without a table has the empty one. -/
def key (c : ColumnUse) : String × String :=
  (c.table.getD "", c.name)

/-- Whether a column stands under a table and a name. -/
def hasKey (c : ColumnUse) (table name : String) : Bool :=
  Text.sameName c.key.1 table && Text.sameName c.key.2 name

def isWildcard (c : ColumnUse) : Bool :=
  c.name == "*"

/-- The alias of two uses. An empty one says nothing, so a telling one takes its place. -/
def mergeAlias (first second : Option String) : Option String :=
  if first.getD "" == "" then (second.filter (· != "")).or first else first

/-- One use out of two. The spelling of the first is kept, and the first verdict. -/
def merge (c d : ColumnUse) : ColumnUse :=
  let verdict := if c.valid.isNone && d.valid.isSome then (d.valid, d.type) else (c.valid, c.type)
  { c with
    roles := c.roles.union d.roles
    aliasName := mergeAlias c.aliasName d.aliasName
    valid := verdict.1
    type := verdict.2 }

def accept (c : ColumnUse) (type : Option String) : ColumnUse :=
  { c with valid := some true, type }

def reject (c : ColumnUse) : ColumnUse :=
  { c with valid := some false, type := none }

def unjudged (c : ColumnUse) : ColumnUse :=
  { c with valid := none, type := none }

/-- Adds a use: it merges with the first one under its key, or goes to the end. -/
def record (c : ColumnUse) : List ColumnUse → List ColumnUse
  | [] => [c]
  | d :: ds => if d.hasKey c.key.1 c.key.2 then d.merge c :: ds else d :: record c ds

/-- Adds uses one after the other. -/
def recordAll (columns new : List ColumnUse) : List ColumnUse :=
  new.foldl (fun columns c ↦ c.record columns) columns

end ColumnUse

end SqlFootprint
