import SqlFootprint.Extraction.Condition
import SqlFootprint.Schema.Basic

/-!
# Schemas out of definitions

Each `CREATE TABLE` declares a table. Types are brought to a canonical spelling: the spellings of
one type become one, and lengths and precisions are kept where they tell types apart.
-/

namespace SqlFootprint

namespace Sql.DataType

/-- The canonical name of a type whose name is all there is to it. -/
def keywordName (name : String) : String :=
  match name with
  | "BOOL" => "BOOLEAN"
  | "FLOAT4" => "REAL"
  | "DOUBLE" | "FLOAT8" => "DOUBLE PRECISION"
  | _ => name

/-- The canonical name of an integer type with a sign. -/
def integerName (name : String) : String :=
  match name with
  | "TINYINT" => "TINYINT"
  | "SMALLINT" | "INT2" => "SMALLINT"
  | "BIGINT" | "INT8" => "BIGINT"
  | _ => "INT"

/-- The canonical name of a type that a user named, or that numbers its rows. -/
def customName (name : String) (modifiers : List String) : String :=
  match name with
  | "SERIAL" | "SERIAL4" => "SERIAL"
  | "BIGSERIAL" | "SERIAL8" => "BIGSERIAL"
  | "SMALLSERIAL" | "SERIAL2" => "SMALLSERIAL"
  | _ => if modifiers.isEmpty then name else name ++ "(" ++ ",".intercalate modifiers ++ ")"

/-- A type in the spelling that a schema keeps. -/
def canonical (t : DataType) : String :=
  match t with
  | .integer name _ false => integerName name
  | .exact "NUMERIC" digits => "NUMERIC" ++ digits.render
  | .exact "DECIMAL" digits => "DECIMAL" ++ digits.render
  | .chars "VARCHAR" length | .chars "CHARACTER VARYING" length => renderChars "VARCHAR" length
  | .chars "CHAR" length | .chars "CHARACTER" length => renderChars "CHAR" length
  | .clock "TIMESTAMP" _ .withZone | .clock "TIMESTAMP" _ .suffix => "TIMESTAMPTZ"
  | .clock "TIMESTAMP" _ _ => "TIMESTAMP"
  | .sized "FLOAT" _ => "FLOAT"
  | .keyword name => Text.upper (keywordName name)
  | .custom name modifiers => customName (Text.upper name.render) modifiers
  | _ => Text.upper t.render

end Sql.DataType

namespace SchemaColumn

/-- A column by its definition. `keys` are the columns of the table's primary keys, in lower
case. -/
def ofDefinition (keys : List String) (c : Sql.ColumnDef) : SchemaColumn :=
  let options := c.options.map (·.2)
  let notNull := options.any fun
    | .notNull => true
    | _ => false
  let primaryKey := options.any fun
    | .primaryKey _ => true
    | _ => false
  let foreignKey := options.any fun
    | .references _ => true
    | _ => false
  let keyed := keys.contains (Text.lower c.name.text) || primaryKey
  let column : SchemaColumn := { name := c.name.text, type := c.type.canonical }
  ((column.setNullable !notNull).setPrimaryKey keyed).setForeignKey foreignKey

end SchemaColumn

namespace Sql

/-- The columns of the primary keys that a table declares apart from its columns, in lower case. -/
def CreateTable.keys (c : CreateTable) : List String :=
  c.constraints.flatMap fun
    | .primaryKey _ columns _ => columns.map fun i ↦ Text.lower i.text
    | .other _ => []

def CreateTable.toSchemaTable (c : CreateTable) : SchemaTable :=
  let t := c.name.toTableUse none
  ⟨t.name, t.schema, c.columns.map (SchemaColumn.ofDefinition c.keys)⟩

end Sql

namespace Schema

/-- Adds what a statement declares. -/
def define (s : Schema) : Sql.Statement → Schema
  | .createTable c => s.insert c.toSchemaTable
  | _ => s

/-- The schema that some statements declare. -/
def ofStatements (statements : List Sql.Statement) : Schema :=
  statements.foldl define empty

end Schema

end SqlFootprint
