import SqlFootprint.Footprint.ColumnUse
import SqlFootprint.Footprint.TableUse

/-!
# Footprints

What a statement touches: its tables, its columns with their roles, the equalities that join its
relations, and the conditions of its `WHERE` clause. A nested query has a footprint of its own and
exposes its tables and columns to the one around it.
-/

namespace SqlFootprint

/-- The kind of statement that a footprint is of. -/
inductive StatementKind where
  | select | insert | update | delete
  /-- The body of a common table expression. -/
  | cte
deriving DecidableEq, Repr, Inhabited

namespace StatementKind

def render : StatementKind → String
  | select => "SELECT"
  | insert => "INSERT"
  | update => "UPDATE"
  | delete => "DELETE"
  | cte => "CTE"

end StatementKind

inductive JoinKind where
  | inner | left | right | full | cross
deriving DecidableEq, Repr, Inhabited

namespace JoinKind

def render : JoinKind → String
  | inner => "INNER"
  | left => "LEFT"
  | right => "RIGHT"
  | full => "FULL"
  | cross => "CROSS"

end JoinKind

/-- An equality of two columns that joins their tables. -/
structure JoinEdge where
  kind : JoinKind
  leftTable : String
  rightTable : String
  leftColumn : String
  rightColumn : String
  condition : Option String := none
deriving DecidableEq, Repr, Inhabited

inductive NoticeKind where
  /-- The statement holds something that has no place in a footprint. -/
  | unsupportedConstruct
  /-- A part was left out because it is nested too deep. -/
  | depthLimitExceeded
deriving DecidableEq, Repr, Inhabited

/-- A remark on what a footprint lacks. -/
structure Notice where
  kind : NoticeKind
  message : String
deriving DecidableEq, Repr, Inhabited

structure Footprint where
  kind : StatementKind
  tables : List TableUse
  columns : List ColumnUse
  joins : List JoinEdge
  conditions : List String
  ctes : List Footprint
  subqueries : List Footprint
  /-- The statement as written, or a nested query as printed. -/
  text : String
  notices : List Notice
deriving Repr, Inhabited

namespace Footprint

/-- The footprint of nothing. -/
def empty (kind : StatementKind) (text : String) : Footprint :=
  ⟨kind, [], [], [], [], [], [], text, []⟩

def addTable (f : Footprint) (t : TableUse) : Footprint :=
  { f with tables := TableUse.insert f.tables t }

def record (f : Footprint) (c : ColumnUse) : Footprint :=
  { f with columns := c.record f.columns }

/-- Merges the columns that stand under one key. -/
def dedup (f : Footprint) : Footprint :=
  { f with columns := ColumnUse.recordAll [] f.columns }

/-- Takes over the tables and columns of a nested footprint. -/
def absorb (f child : Footprint) : Footprint :=
  { f with
    tables := child.tables.foldl TableUse.insert f.tables
    columns := ColumnUse.recordAll f.columns child.columns }

def addJoin (f : Footprint) (j : JoinEdge) : Footprint :=
  { f with joins := f.joins ++ [j] }

def addCondition (f : Footprint) (text : String) : Footprint :=
  { f with conditions := f.conditions ++ [text] }

def addCte (f child : Footprint) : Footprint :=
  { f with ctes := f.ctes ++ [child] }

def addSubquery (f child : Footprint) : Footprint :=
  { f with subqueries := f.subqueries ++ [child] }

/-- Adds a notice unless it is there. -/
def note (f : Footprint) (n : Notice) : Footprint :=
  { f with notices := if f.notices.contains n then f.notices else f.notices ++ [n] }

def column? (f : Footprint) (table : Option String) (name : String) : Option ColumnUse :=
  f.columns.find? (·.hasKey (table.getD "") name)

/-- The names of the tables, each once and in the order of their first use. -/
def tableNames (f : Footprint) : List String :=
  f.tables.foldl (fun names t ↦ if names.contains t.name then names else names ++ [t.name]) []

mutual

/-- The notices of a footprint and of all that it contains. -/
def allNotices : Footprint → List Notice
  | ⟨_, _, _, _, _, ctes, subqueries, _, notices⟩ =>
    notices ++ noticesOfAll ctes ++ noticesOfAll subqueries

def noticesOfAll : List Footprint → List Notice
  | [] => []
  | f :: fs => f.allNotices ++ noticesOfAll fs

end

/-- Whether a footprint has neither tables nor columns. -/
def isEmpty (f : Footprint) : Bool :=
  f.tables.isEmpty && f.columns.isEmpty

end Footprint

end SqlFootprint
