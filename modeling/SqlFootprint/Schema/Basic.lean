import SqlFootprint.Schema.NameMap
import SqlFootprint.Text.Case

/-!
# Schemas

The tables that definitions declare. A schema answers two kinds of questions: which type a column
has, by names in lower case, and how a table was declared, with its columns in their order.
-/

namespace SqlFootprint

structure SchemaColumn where
  name : String
  /-- The type in its canonical spelling. -/
  type : String
  nullable : Bool := true
  primaryKey : Bool := false
  foreignKey : Bool := false
deriving DecidableEq, Repr, Inhabited

namespace SchemaColumn

def setNullable (c : SchemaColumn) (nullable : Bool) : SchemaColumn :=
  { c with nullable }

/-- A column of a primary key is never null. -/
def setPrimaryKey (c : SchemaColumn) (primaryKey : Bool) : SchemaColumn :=
  { c with primaryKey, nullable := c.nullable && !primaryKey }

def setForeignKey (c : SchemaColumn) (foreignKey : Bool) : SchemaColumn :=
  { c with foreignKey }

end SchemaColumn

structure SchemaTable where
  name : String
  schema : Option String := none
  columns : List SchemaColumn := []
deriving DecidableEq, Repr, Inhabited

namespace SchemaTable

/-- The name under which a schema keeps the table. -/
def key (t : SchemaTable) : String :=
  Text.lower t.name

def column? (t : SchemaTable) (name : String) : Option SchemaColumn :=
  t.columns.find? (Text.sameName ·.name name)

def primaryKey (t : SchemaTable) : List String :=
  (t.columns.filter SchemaColumn.primaryKey).map SchemaColumn.name

/-- The types of the columns by their names in lower case. -/
def types (t : SchemaTable) : NameMap String :=
  .ofList (t.columns.map fun c ↦ (Text.lower c.name, c.type))

/-- Puts a table in the place of the first one that is kept under the same name, or at the end. -/
def replace (t : SchemaTable) : List SchemaTable → List SchemaTable
  | [] => [t]
  | u :: us => if u.key == t.key then t :: us else u :: replace t us

end SchemaTable

structure Schema where
  /-- The types of columns, by table and column in lower case. -/
  tables : NameMap (NameMap String) := []
  /-- The tables as they were declared. -/
  details : List SchemaTable := []
deriving DecidableEq, Repr, Inhabited

namespace Schema

def empty : Schema := {}

/-- Adds a table. An earlier one of the same name is replaced in its place. -/
def insert (s : Schema) (t : SchemaTable) : Schema :=
  ⟨s.tables.insert t.key t.types, t.replace s.details⟩

def columns? (s : Schema) (table : String) : Option (NameMap String) :=
  s.tables.get? (Text.lower table)

def hasTable (s : Schema) (table : String) : Bool :=
  (s.columns? table).isSome

def columnType? (s : Schema) (table column : String) : Option String :=
  (s.columns? table).bind (·.get? (Text.lower column))

def detail? (s : Schema) (table : String) : Option SchemaTable :=
  s.details.find? (Text.sameName ·.name table)

def count (s : Schema) : Nat :=
  s.tables.length

def isEmpty (s : Schema) : Bool :=
  s.tables.isEmpty

end Schema

end SqlFootprint
