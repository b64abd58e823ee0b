import SqlFootprint.Sql.Parser.Grammar
import SqlFootprint.Sql.Parser.Value

/-!
# Reading types

A type starts with a word. A word that names no type of its own makes a custom type, so nearly
every word does.
-/

namespace SqlFootprint.Sql.Parse

/-! ## Parameters -/

/-- A number in parentheses. -/
def size : Parse (Option Nat) := do
  if ← acceptSymbol "(" then
    let n ← wholeNumber
    expectSymbol ")"
    return some n
  else return none

/-- Up to two numbers in parentheses. -/
def exactDigits : Parse ExactDigits := do
  if ← acceptSymbol "(" then
    let p ← wholeNumber
    let digits ← if ← acceptSymbol "," then pure (.scaled p (← wholeNumber)) else pure (.precision p)
    expectSymbol ")"
    return digits
  else return .unspecified

def charLength : Parse (Option CharLength) := do
  if ← acceptSymbol "(" then
    let length ← if ← acceptWord "MAX" then pure .maximum else
      pure (.count (← wholeNumber) (← acceptOneOf ["CHARACTERS", "OCTETS"]))
    expectSymbol ")"
    return some length
  else return none

/-- The zone of a time, where it is written out. -/
def zoneForm : Parse ZoneForm := do
  if ← acceptWord "WITH" then
    expectWords ["TIME", "ZONE"]
    return .withZone
  else if ← acceptWord "WITHOUT" then
    expectWords ["TIME", "ZONE"]
    return .withoutZone
  else return .unspecified

/-- The parameters of a custom type: words, numbers and strings, whose commas do not count. -/
def typeModifiers : Parse (List String) := do
  if ← acceptSymbol "(" then
    let parts ← many do
      let t ← take
      match t.token with
      | .word w => return some [w.render]
      | .number digits _ => return some [digits]
      | .string .plain text => return some [text]
      | .symbol "," => return some []
      | .symbol ")" =>
        back
        return none
      | _ => failAt "type modifiers" t
    expectSymbol ")"
    return parts.flatten
  else return []

/-- A quoted value of an enumeration, which may be given a number. -/
def enumMember : Parse String := do
  let name ← stringText
  if ← acceptSymbol "=" then return quoteString name ++ " = " ++ (← signedNumber)
  else return quoteString name

def setMember : Parse String := do
  let t ← take
  match t.token with
  | .string .plain text => return quoteString text
  | _ => failAt "a string" t

/-- The strings of a set type. -/
def setMembers : Parse (List String) := do
  expectSymbol "("
  let first ← setMember
  let rest ← many do
    if ← acceptSymbol "," then return some (← setMember)
    else if ← atSymbol ")" then return none
    else failNext ", or \x7d"
  expectSymbol ")"
  return first :: rest

/-! ## Types in brackets -/

/-- A bracket that closes a type. A double one closes the type around it too. -/
def closeBracket (closed : Bool) : Parse Bool := do
  if closed then return false
  else if ← acceptSymbol ">" then return false
  else if ← acceptSymbol ">>" then return true
  else failNext ">"

section

variable (g : Grammar)

/-- A member of a structured type, with a name if two words come next. -/
def typeMember : Parse ((Option Ident × DataType) × Bool) := do
  let named := match (← peek 0).token, (← peek 1).token with
    | .word _, .word _ => true
    | _, _ => false
  let name ← if named then some <$> ident else pure none
  let (t, closed) ← g.openType
  return ((name, t), closed)

/-- The members of a structured type, up to its closing bracket. -/
def bracketMembers (start : Located) : Parse (List (Option Ident × DataType) × Bool) := do
  let (first, closed) ← typeMember g
  let (members, closed) ← extend ([first], closed) fun (members, closed) ↦ do
    if ← acceptSymbol "," then
      if closed then throw (.unmatchedBracket "in STRUCT definition" start)
      let (m, closed) ← typeMember g
      return some (m :: members, closed)
    else return none
  return (members.reverse, ← closeBracket closed)

/-- What follows the word `STRUCT` in a type. -/
def structMembers (start : Located) : Parse (List (Option Ident × DataType) × Bool) := do
  if ← acceptSymbol "<" then bracketMembers g start else return ([], false)

def structType (members : List (Option Ident × DataType)) : DataType :=
  if members.isEmpty then .keyword "STRUCT" else .record "STRUCT<" members ">"

/-- A type with one type in parentheses. -/
def wrappedType (before : String) : Parse DataType :=
  return .applied before [← parens g.type] ")"

/-- The members of a union, each with a name. -/
def unionType : Parse DataType := do
  let members ← parens <| commaSep do
    let name ← ident
    return (some name, ← g.type)
  return .record "UNION(" members ")"

def tupleType : Parse DataType := do
  let members ← parens (commaSep ((·.1) <$> typeMember g))
  return .record "Tuple(" members ")"

/-! ## The rule for types -/

/-- Types whose canonical name is the word itself and that take no parameters. -/
def plainTypes : List (String × String) :=
  ["BOOLEAN", "BOOL", "REAL", "FLOAT4", "FLOAT64", "FLOAT8", "INT64", "UUID", "DATE", "INTERVAL",
    "JSON", "JSONB", "REGCLASS", "TEXT", "TINYTEXT", "MEDIUMTEXT", "LONGTEXT", "BYTEA", "TINYBLOB",
    "MEDIUMBLOB", "LONGBLOB", "TRIGGER"].map (fun w ↦ (w, w)) ++
  [("FLOAT32", "Float32"), ("INT16", "Int16"), ("INT32", "Int32"), ("INT128", "Int128"),
    ("INT256", "Int256"), ("UINT8", "UInt8"), ("UINT16", "UInt16"), ("UINT32", "UInt32"),
    ("UINT64", "UInt64"), ("UINT128", "UInt128"), ("UINT256", "UInt256"), ("DATE32", "Date32")]

/-- Types that may take one number. -/
def sizedTypes : List String :=
  ["FLOAT", "CLOB", "BINARY", "VARBINARY", "BLOB", "BYTES", "DATETIME", "STRING"]

/-- Integer types that may take a width and a sign. -/
def integerTypes : List String :=
  ["TINYINT", "INT2", "SMALLINT", "MEDIUMINT", "INT", "INT4", "INT8", "INTEGER", "BIGINT"]

def exactTypes : List String :=
  ["NUMERIC", "DECIMAL", "DEC", "BIGNUMERIC", "BIGDECIMAL"]

/-- The types that only the permissive dialect knows. -/
def permissiveType (start : Located) (word : String) : Parse (Option (DataType × Bool)) := do
  if (← dialect) != .ansi then return none
  match word with
  | "STRUCT" =>
    let (members, closed) ← structMembers g start
    return some (structType members, closed)
  | "UNION" => return some (← unionType g, false)
  | "NULLABLE" => return some (← wrappedType g "Nullable(", false)
  | "LOWCARDINALITY" => return some (← wrappedType g "LowCardinality(", false)
  | "MAP" =>
    let (key, value) ← parens do
      let key ← g.type
      expectSymbol ","
      return (key, ← g.type)
    return some (.applied "Map(" [key, value] ")", false)
  | "NESTED" =>
    let columns ← parens (commaSep g.columnDef)
    return some (.values "Nested" (columns.map ColumnDef.render), false)
  | "TUPLE" => return some (← tupleType g, false)
  | _ => return none

/-- The type that a word announces, read from after the word. -/
def wordType (start : Located) (word : String) : Parse (DataType × Bool) := do
  if let some (_, name) := plainTypes.find? (·.1 == word) then return (.keyword name, false)
  if sizedTypes.contains word then return (.sized word (← size), false)
  if integerTypes.contains word then
    return (.integer word (← size) (← acceptWord "UNSIGNED"), false)
  if exactTypes.contains word then return (.exact word (← exactDigits), false)
  if let some found ← permissiveType g start word then return found
  match word with
  | "DOUBLE" =>
    return (.keyword (if ← acceptWord "PRECISION" then "DOUBLE PRECISION" else "DOUBLE"), false)
  | "VARCHAR" | "NVARCHAR" => return (.chars word (← charLength), false)
  | "CHARACTER" | "CHAR" =>
    if ← acceptWord "VARYING" then return (.chars (word ++ " VARYING") (← charLength), false)
    else if ← acceptWords ["LARGE", "OBJECT"] then
      return (.sized (word ++ " LARGE OBJECT") (← size), false)
    else return (.chars word (← charLength), false)
  | "BIT" =>
    let name := if ← acceptWord "VARYING" then "BIT VARYING" else "BIT"
    return (.sized name (← size), false)
  | "DATETIME64" =>
    let (precision, zone) ← parens do
      let p ← wholeNumber
      let zone ← if ← acceptSymbol "," then some <$> stringText else pure none
      return (p, zone)
    let zone := match zone with
      | none => []
      | some z => ["'" ++ z ++ "'"]
    return (.values "DateTime64" (toString precision :: zone), false)
  | "FIXEDSTRING" => return (.sized "FixedString" (some (← parens wholeNumber)), false)
  | "TIMESTAMP" | "TIME" =>
    let precision ← size
    return (.clock word precision (← zoneForm), false)
  | "TIMESTAMPTZ" => return (.clock "TIMESTAMP" (← size) .suffix, false)
  | "TIMETZ" => return (.clock "TIME" (← size) .suffix, false)
  | "ENUM" | "ENUM8" | "ENUM16" => return (.values word (← parens (commaSep enumMember)), false)
  | "SET" => return (.values "SET" (← setMembers), false)
  | "ARRAY" =>
    expectSymbol "<"
    let (element, closed) ← g.openType
    let closed ← closeBracket closed
    return (.applied "ARRAY<" [element] ">", closed)
  | _ =>
    back
    let name ← objectName
    return (.custom name (← typeModifiers), false)

/-- A type, with the array brackets after it. -/
def typeRule : Parse (DataType × Bool) := do
  let t ← take
  match t.token with
  | .word w =>
    let (type, closed) ← wordType g t w.keyword
    let type ← extend type fun type ↦ do
      if ← acceptSymbol "[" then
        let size ← attempt wholeNumber
        expectSymbol "]"
        return some (.array type size)
      else return none
    return (type, closed)
  | _ => failAt "a data type name" t

end

end SqlFootprint.Sql.Parse
