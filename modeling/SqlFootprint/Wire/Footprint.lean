import SqlFootprint.Footprint.Basic
import SqlFootprint.Wire.Record

/-!
# Footprints on the wire

How footprints are written and read. What is absent is left out; an empty list of notices is left
out too, and every other list is written.
-/

namespace SqlFootprint

namespace StatementKind

def all : List StatementKind := [.select, .insert, .update, .delete, .cte]

def ofJson? : Json → Option StatementKind :=
  Json.toChoice? (all.map fun k ↦ (k.render, k))

end StatementKind

namespace JoinKind

def all : List JoinKind := [.inner, .left, .right, .full, .cross]

def ofJson? : Json → Option JoinKind :=
  Json.toChoice? (all.map fun k ↦ (k.render, k))

end JoinKind

namespace NoticeKind

/-- The name of a kind on the wire. -/
def code : NoticeKind → String
  | unsupportedConstruct => "unsupported_construct"
  | depthLimitExceeded => "depth_limit_exceeded"

def ofJson? : Json → Option NoticeKind :=
  Json.toChoice? ([unsupportedConstruct, depthLimitExceeded].map fun k ↦ (k.code, k))

end NoticeKind

namespace TableUse

def toJson (t : TableUse) : Json :=
  .object ([("name", .string t.name)] ++
    Json.optionalMember "alias" (t.aliasName.map .string) ++
    Json.optionalMember "schema" (t.schema.map .string))

def ofJson? (j : Json) : Option TableUse := do
  let r ← Record.ofJson? 3 j
  return {
    name := ← r.required 0 "name" Json.toString?
    aliasName := ← r.optional 1 "alias" Json.toString?
    schema := ← r.optional 2 "schema" Json.toString? }

end TableUse

namespace ColumnUse

def toJson (c : ColumnUse) : Json :=
  .object ([("name", .string c.name)] ++
    Json.optionalMember "table" (c.table.map .string) ++
    Json.optionalMember "alias" (c.aliasName.map .string) ++
    [("isSelected", .bool c.roles.selected), ("isJoinColumn", .bool c.roles.joined),
      ("isFilterColumn", .bool c.roles.filtered), ("isModified", .bool c.roles.modified)] ++
    Json.optionalMember "isValid" (c.valid.map .bool) ++
    Json.optionalMember "dataType" (c.type.map .string))

def ofJson? (j : Json) : Option ColumnUse := do
  let r ← Record.ofJson? 9 j
  let name ← r.required 0 "name" Json.toString?
  let table ← r.optional 1 "table" Json.toString?
  let aliasName ← r.optional 2 "alias" Json.toString?
  let selected ← r.withDefault 3 "isSelected" Json.toBool? false
  let joined ← r.withDefault 4 "isJoinColumn" Json.toBool? false
  let filtered ← r.withDefault 5 "isFilterColumn" Json.toBool? false
  let modified ← r.withDefault 6 "isModified" Json.toBool? false
  let valid ← r.optional 7 "isValid" Json.toBool?
  let type ← r.optional 8 "dataType" Json.toString?
  return ⟨name, table, aliasName, ⟨selected, joined, filtered, modified⟩, valid, type⟩

end ColumnUse

namespace JoinEdge

def toJson (e : JoinEdge) : Json :=
  .object ([("type", .string e.kind.render), ("leftTable", .string e.leftTable),
    ("rightTable", .string e.rightTable), ("leftColumn", .string e.leftColumn),
    ("rightColumn", .string e.rightColumn)] ++
    Json.optionalMember "condition" (e.condition.map .string))

def ofJson? (j : Json) : Option JoinEdge := do
  let r ← Record.ofJson? 6 j
  return {
    kind := ← r.required 0 "type" JoinKind.ofJson?
    leftTable := ← r.required 1 "leftTable" Json.toString?
    rightTable := ← r.required 2 "rightTable" Json.toString?
    leftColumn := ← r.required 3 "leftColumn" Json.toString?
    rightColumn := ← r.required 4 "rightColumn" Json.toString?
    condition := ← r.optional 5 "condition" Json.toString? }

end JoinEdge

namespace Notice

def toJson (n : Notice) : Json :=
  .object [("kind", .string n.kind.code), ("message", .string n.message)]

def ofJson? (j : Json) : Option Notice := do
  let r ← Record.ofJson? 2 j
  return {
    kind := ← r.required 0 "kind" NoticeKind.ofJson?
    message := ← r.required 1 "message" Json.toString? }

end Notice

namespace Footprint

mutual

def toJson : Footprint → Json
  | ⟨kind, tables, columns, joins, conditions, ctes, subqueries, text, notices⟩ =>
    .object ([("type", .string kind.render), ("tables", .array (tables.map TableUse.toJson)),
      ("columns", .array (columns.map ColumnUse.toJson)),
      ("joins", .array (joins.map JoinEdge.toJson)),
      ("whereConditions", .array (conditions.map .string)), ("ctes", .array (toJsons ctes)),
      ("subqueries", .array (toJsons subqueries)), ("rawSql", .string text)] ++
      if notices.isEmpty then [] else [("warnings", .array (notices.map Notice.toJson))])

def toJsons : List Footprint → List Json
  | [] => []
  | f :: fs => f.toJson :: toJsons fs

end

/-- Reads a footprint that is nested no deeper than the fuel. -/
def ofJsonWithin? : Nat → Json → Option Footprint
  | 0, _ => none
  | n + 1, j => do
    let r ← Record.ofJson? 9 j
    let kind ← r.required 0 "type" StatementKind.ofJson?
    let tables ← r.required 1 "tables" (Json.toList? TableUse.ofJson?)
    let columns ← r.required 2 "columns" (Json.toList? ColumnUse.ofJson?)
    let joins ← r.required 3 "joins" (Json.toList? JoinEdge.ofJson?)
    let conditions ← r.required 4 "whereConditions" (Json.toList? Json.toString?)
    let ctes ← r.required 5 "ctes" (Json.toList? (ofJsonWithin? n))
    let subqueries ← r.required 6 "subqueries" (Json.toList? (ofJsonWithin? n))
    let text ← r.required 7 "rawSql" Json.toString?
    let notices ← r.withDefault 8 "warnings" (Json.toList? Notice.ofJson?) []
    return ⟨kind, tables, columns, joins, conditions, ctes, subqueries, text, notices⟩

def ofJson? (j : Json) : Option Footprint :=
  ofJsonWithin? j.height j

end Footprint

end SqlFootprint
