import SqlFootprint.Footprint.Basic
import SqlFootprint.Sql.Render

/-!
# Scopes

While a query is walked, its scope holds the footprint so far and the relations that qualifiers
may mean. The relations of the queries around it are within reach too, but those of nested queries
are not: what a nested query exposes goes into the footprint and never captures a qualifier.
-/

namespace SqlFootprint

/-- What a query finds around it. -/
structure Reach where
  /-- The relations of the enclosing queries, innermost first. -/
  outer : List TableUse
  depth : Nat
  /-- How deep a walk may go. -/
  limit : Nat

structure Scope where
  footprint : Footprint
  /-- The relations of this query, in the order in which they came. -/
  visible : List TableUse

/-- What a part of a statement does to a scope. -/
abbrev Walk := Reach → Scope → Scope

/-- A direct reference to a column, whose qualifier is not resolved yet. -/
structure ColumnRef where
  qualifier : Option String
  column : String
deriving DecidableEq, Repr

namespace Scope

/-- The scope of a nested query or of a whole statement. -/
def start (kind : StatementKind) (text : String) : Scope :=
  ⟨.empty kind text, []⟩

/-- The footprint when the walk is over. -/
def finish (s : Scope) : Footprint :=
  s.footprint.dedup

def edit (s : Scope) (change : Footprint → Footprint) : Scope :=
  { s with footprint := change s.footprint }

/-- Adds a relation to the footprint and to what qualifiers may mean. -/
def register (s : Scope) (t : TableUse) : Scope :=
  ⟨s.footprint.addTable t, s.visible ++ [t]⟩

def unsupported (s : Scope) (message : String) : Scope :=
  s.edit (·.note ⟨.unsupportedConstruct, message⟩)

/-- Says that something was nested too deep. -/
def tooDeep (s : Scope) (what : String) (limit : Nat) : Scope :=
  s.edit (·.note ⟨.depthLimitExceeded, s!"{what} nested deeper than {limit} levels was skipped"⟩)

/-- The table of this scope that a qualifier means. The latest one is asked first. -/
def ownTable? (s : Scope) (qualifier : String) : Option TableUse :=
  TableUse.find? s.visible.reverse qualifier

/-- The name of the table that a qualifier means. One that means no table stands for itself. -/
def resolve (s : Scope) (outer : List TableUse) (qualifier : String) : String :=
  match (s.ownTable? qualifier).or (TableUse.find? outer qualifier) with
  | some t => t.name
  | none => qualifier

end Scope

namespace Walk

def skip : Walk := fun _ s ↦ s

/-- Walks one after the other. -/
def all : List Walk → Walk
  | [] => skip
  | w :: ws => fun r s ↦ all ws r (w r s)

def edit (change : Footprint → Footprint) : Walk := fun _ s ↦ s.edit change

def unsupported (message : String) : Walk := fun _ s ↦ s.unsupported message

def register (t : TableUse) : Walk := fun _ s ↦ s.register t

/-- Goes one level down, or leaves the part out at the limit. -/
def deeper (what : String) (w : Walk) : Walk := fun r s ↦
  if r.depth < r.limit then w { r with depth := r.depth + 1 } s else s.tooDeep what r.limit

/-- Gives a nested query a footprint of its own, in reach of this scope. Its tables and columns
are taken over, and `keep` puts it in its place. -/
def nested (kind : StatementKind) (text : String) (w : Walk)
    (keep : Footprint → Footprint → Footprint) : Walk := fun r s ↦
  if r.depth < r.limit then
    let child := (w { r with outer := s.visible.reverse ++ r.outer } (.start kind text)).finish
    s.edit fun f ↦ keep (f.absorb child) child
  else s.tooDeep "subquery" r.limit

/-- Walks with a list of relations of its own, which is dropped afterwards. -/
def branch (w : Walk) : Walk := fun r s ↦
  let t := w r s
  { t with visible := t.visible.take s.visible.length }

/-- Records a reference in a role. -/
def recordRef (c : ColumnRef) (role : Role) (aliasName : Option String) : Walk := fun r s ↦
  s.edit (·.record
    { name := c.column, table := c.qualifier.map (s.resolve r.outer), aliasName
      roles := .ofRole role })

end Walk

end SqlFootprint
