import SqlFootprint.Sql.Parser.Definition

/-!
# Reading transfers of rows

Copies to and from files. The rows of a copy may follow it in the text itself, with tabs between
their fields; there blanks and comments count.
-/

namespace SqlFootprint.Sql.Parse

/-! ## Options of a copy -/

/-- A string of a single byte, between quotes as it is. -/
def quotedByte : Parse String := do
  let t ← next
  let text ← stringText
  if text.utf8ByteSize == 1 then return "'" ++ text ++ "'" else throw (.notOneChar text t)

def copyOption : Parse String := do
  let flag (word : String) : Parse String := do
    match ← acceptOneOf ["TRUE", "FALSE"] with
    | some "FALSE" => return word ++ " FALSE"
    | _ => return word
  match ← acceptOneOf ["FORMAT", "FREEZE", "DELIMITER", "NULL", "HEADER", "QUOTE", "ESCAPE",
      "FORCE_QUOTE", "FORCE_NOT_NULL", "FORCE_NULL", "ENCODING"] with
  | some "FORMAT" => return "FORMAT " ++ (← ident).render
  | some "FREEZE" => flag "FREEZE"
  | some "HEADER" => flag "HEADER"
  | some "NULL" => return "NULL " ++ quoteString (← stringText)
  | some "ENCODING" => return "ENCODING " ++ quoteString (← stringText)
  | some word =>
    if word.startsWith "FORCE" then return word ++ " " ++ columnNames (← identList false false)
    else return word ++ " " ++ (← quotedByte)
  | none => failNext "option"

/-- An option of the format `CSV` in the older form. -/
def legacyCsvOption : Parse String := do
  match ← acceptOneOf ["HEADER", "QUOTE", "ESCAPE", "FORCE"] with
  | some "HEADER" => return " HEADER"
  | some "FORCE" =>
    if ← acceptWords ["NOT", "NULL"] then return " FORCE NOT NULL " ++ (← identNames)
    expectWord "QUOTE"
    return " FORCE QUOTE " ++ (← identNames)
  | some word =>
    let _ ← acceptWord "AS"
    return " " ++ word ++ " " ++ (← quotedByte)
  | none => failNext "csv option"

/-- An option of a copy in its older form. -/
def legacyCopyOption : Parse String := do
  match ← acceptOneOf ["BINARY", "DELIMITER", "NULL", "CSV"] with
  | some "DELIMITER" =>
    let _ ← acceptWord "AS"
    return " DELIMITER " ++ (← quotedByte)
  | some "NULL" =>
    let _ ← acceptWord "AS"
    return " NULL " ++ quoteString (← stringText)
  | some "CSV" => return " CSV" ++ "".intercalate (← many (attempt legacyCsvOption))
  | some word => return " " ++ word
  | none => failNext "option"

/-! ## Rows in the text -/

/-- Fields that were read from rows in the text, the last first, and what the next one holds so
far. A field without content is null. -/
structure InlineFields where
  fields : List (Option String) := []
  content : String := ""

namespace InlineFields

/-- A tab or the end of a line ends a field. -/
def gap (f : InlineFields) : Gap → InlineFields
  | .tab | .newline => ⟨some f.content :: f.fields, ""⟩
  | .other text => { f with content := f.content ++ text }

end InlineFields

/-- A field as it is written again. -/
def renderField : Option String → String
  | some content => content
  | none => "\\N"

/-- The fields of the rows that follow in the text, up to a backslash and a period or to the end. A
backslash and an `N` add a null; any other token after a backslash is dropped. -/
def inlineFields : Parse (List (Option String)) := do
  let (f, _) ← extend (({} : InlineFields), false) fun (f, ended) ↦ do
    if ended then return none
    let t ← take
    let f := t.gaps.foldl InlineFields.gap f
    match t.token with
    | .endOfInput =>
      back
      return some (f, true)
    | .symbol "\\" =>
      if ← acceptSymbol "." then return some (f, true)
      match (← take).token with
      | .word ⟨"N", _, _⟩ => return some ({ f with fields := none :: f.fields }, false)
      | _ => return some (f, false)
    | token => return some ({ f with content := f.content ++ token.render }, false)
  return f.fields.reverse

section

variable (g : Grammar)

/-! ## Transfers -/

/-- The relation of a copy, and whether it is a query. -/
def copySource : Parse (List Piece × Bool) := do
  if ← acceptSymbol "(" then
    let q ← g.query
    expectSymbol ")"
    return ([.text "(", .query q, .text ")"], true)
  else
    let table := (← objectName).render
    let columns ← identList true false
    return ([.text (table ++ if columns.isEmpty then "" else " " ++ columnNames columns)], false)

/-- A copy between a relation and a file. -/
def copy : Parse Statement := do
  let (source, fromQuery) ← copySource g
  let direction ← match ← acceptOneOf ["FROM", "TO"] with
    | some word => pure word
    | none => failNext "FROM or TO"
  if fromQuery && direction == "FROM" then
    throw (.unsupported "COPY ... FROM does not support query as a source" .nowhere)
  let channel ← acceptOneOf ["STDIN", "STDOUT"]
  let target ← match channel with
    | some word => pure word
    | none =>
      let program := textIf (← acceptWord "PROGRAM") "PROGRAM "
      pure (program ++ quoteString (← stringText))
  let _ ← acceptWord "WITH"
  let options ← if ← acceptSymbol "(" then
      let options ← commaSep copyOption
      expectSymbol ")"
      pure (" (" ++ commaList options ++ ")")
    else pure ""
  let legacy ← many (attempt legacyCopyOption)
  let fields ← if channel == some "STDIN" then
      expectSymbol ";"
      inlineFields
    else pure []
  let rows := if fields.isEmpty then "" else
    ";\n" ++ "\t".intercalate (fields.map renderField) ++ "\n\\."
  return .other (.text "COPY " :: source ++
    [.text (" " ++ direction ++ " " ++ target ++ options ++ "".intercalate legacy ++ rows)])

/-- The rows of a query, which go to a file. -/
def unload : Parse Statement := do
  let query ← parens g.query
  expectWord "TO"
  let target := (← ident).render
  return .other (.text "UNLOAD(" :: .query query :: .text (") TO " ++ target) ::
    (← keyedOptions g "WITH" " WITH "))

end

end SqlFootprint.Sql.Parse
