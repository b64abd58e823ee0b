import SqlFootprint.Schema.Basic
import SqlFootprint.Wire.Record

/-!
# Schemas on the wire

Maps are written in the order of their keys. Of several members of one name the last one counts.
-/

namespace SqlFootprint

namespace NameMap

variable {α : Type}

def toJson (write : α → Json) (m : NameMap α) : Json :=
  .object (m.map fun (key, a) ↦ (key, write a))

def ofJson? (read : Json → Option α) : Json → Option (NameMap α)
  | .object members => do
    return .ofList (← members.mapM fun (key, j) ↦ do return (key, ← read j))
  | _ => none

end NameMap

namespace SchemaColumn

def toJson (c : SchemaColumn) : Json :=
  .object [("name", .string c.name), ("dataType", .string c.type), ("nullable", .bool c.nullable),
    ("isPrimaryKey", .bool c.primaryKey), ("isForeignKey", .bool c.foreignKey)]

def ofJson? (j : Json) : Option SchemaColumn := do
  let r ← Record.ofJson? 5 j
  return {
    name := ← r.required 0 "name" Json.toString?
    type := ← r.required 1 "dataType" Json.toString?
    nullable := ← r.required 2 "nullable" Json.toBool?
    primaryKey := ← r.required 3 "isPrimaryKey" Json.toBool?
    foreignKey := ← r.required 4 "isForeignKey" Json.toBool? }

end SchemaColumn

namespace SchemaTable

def toJson (t : SchemaTable) : Json :=
  .object ([("name", .string t.name)] ++
    Json.optionalMember "schema" (t.schema.map .string) ++
    [("columns", .array (t.columns.map SchemaColumn.toJson))])

def ofJson? (j : Json) : Option SchemaTable := do
  let r ← Record.ofJson? 3 j
  return {
    name := ← r.required 0 "name" Json.toString?
    schema := ← r.optional 1 "schema" Json.toString?
    columns := ← r.required 2 "columns" (Json.toList? SchemaColumn.ofJson?) }

end SchemaTable

namespace Schema

def toJson (s : Schema) : Json :=
  .object [("tables", s.tables.toJson (·.toJson .string)),
    ("tableDetails", .array (s.details.map SchemaTable.toJson))]

def ofJson? (j : Json) : Option Schema := do
  let r ← Record.ofJson? 2 j
  return {
    tables := ← r.required 0 "tables" (NameMap.ofJson? (NameMap.ofJson? Json.toString?))
    details := ← r.required 1 "tableDetails" (Json.toList? SchemaTable.ofJson?) }

end Schema

end SqlFootprint
