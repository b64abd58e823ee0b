import SqlFootprint.Sql.Parser.Expr
import SqlFootprint.Sql.Parser.Phrase

/-!
# Reading questions

`SHOW`, which asks for the objects of a database or for a setting.
-/

namespace SqlFootprint.Sql.Parse

/-- Every word up to the end of the text or an equals sign. -/
def allWords : Parse (List String) := do
  let words ← many do
    let t ← next
    match t.token with
    | .endOfInput | .symbol "=" => return none
    | .word w =>
      let _ ← take
      return some [w.toIdent.render]
    | _ =>
      let _ ← take
      return some []
  return words.flatten

section

variable (g : Grammar)

/-! ## Clauses -/

/-- Which of the objects are shown, with a space before it. -/
def shownFilter : Parse (List Piece) := do
  if ← acceptWord "LIKE" then return [.text (" LIKE " ++ quoteString (← stringText))]
  else if ← acceptWord "ILIKE" then
    let quoted := quoteString (← stringText)
    return [.text (" ILIKE " ++ ((quoted.drop 1).dropEnd 1).toString)]
  else if ← acceptWord "WHERE" then return [.text " WHERE ", .expr (← g.expr)]
  else
    match ← attempt stringText with
    | some text => return [.text (" " ++ quoteString text)]
    | none => return []

/-- What the objects belong to, from after `FROM` or `IN`. The name after a word for its kind may be
missing; the name of a table may be followed by that of its database. -/
def shownOwner : Parse String := do
  match ← acceptOneOf ["ACCOUNT", "DATABASE", "SCHEMA", "TABLE", "VIEW"] with
  | some kind =>
    let ends := (← atWordsFrom 0 ["STARTS", "WITH"]) || (← atWord "LIMIT")
    if ends && (kind == "DATABASE" || kind == "SCHEMA") then return " " ++ kind
    return " " ++ kind ++ labelled " " ((← attemptPast objectName).map ObjectName.render)
  | none =>
    let name ← objectName
    match ← acceptOneOf ["FROM", "IN"] with
    | some _ => return " " ++ ObjectName.render ((← ident) :: name)
    | none => return " " ++ name.render

/-- The clauses after the kind of the objects; the filter is printed last. -/
def shownClauses : Parse (List Piece) := do
  let place ← match ← acceptOneOf ["FROM", "IN"] with
    | some word => pure (" " ++ word ++ (← shownOwner))
    | none => pure ""
  let filter ← shownFilter g
  let start ← if ← acceptWords ["STARTS", "WITH"] then pure (" STARTS WITH " ++ (← value))
    else pure ""
  let limit ← if ← acceptWord "LIMIT" then
      if ← acceptWord "ALL" then pure [] else pure [.text " LIMIT ", .expr (← g.expr)]
    else pure []
  let first ← if ← acceptWord "FROM" then pure (" FROM " ++ (← value)) else pure ""
  return .text (place ++ start) :: limit ++ .text first :: filter

/-! ## Questions -/

/-- The words that may come first in a question, in their only order. -/
structure ShownFlags where
  terse : Bool
  extended : Bool
  full : Bool
  session : Bool
  global : Bool
  external : Bool

def shownFlags : Parse ShownFlags := do
  let terse ← acceptWord "TERSE"
  let extended ← acceptWord "EXTENDED"
  let full ← acceptWord "FULL"
  let session ← acceptWord "SESSION"
  let global ← acceptWord "GLOBAL"
  return { terse, extended, full, session, global, external := ← acceptWord "EXTERNAL" }

/-- Objects of a kind that may be shown in full. -/
def showObjects (f : ShownFlags) : Parse (Option (List Piece)) := do
  let terse := textIf f.terse "TERSE "
  let detail := textIf f.extended "EXTENDED " ++ textIf f.full "FULL "
  if (← acceptOneOf ["COLUMNS", "FIELDS"]).isSome then
    return some (.text (detail ++ "COLUMNS") :: (← shownClauses g))
  else if ← acceptWord "TABLES" then
    let past ← if f.external then pure false else acceptWord "HISTORY"
    return some (.text (terse ++ detail ++ textIf f.external "EXTERNAL " ++ "TABLES" ++
      textIf past " HISTORY") :: (← shownClauses g))
  else if ← acceptWords ["MATERIALIZED", "VIEWS"] then
    return some (.text (terse ++ "MATERIALIZED VIEWS") :: (← shownClauses g))
  else if ← acceptWord "VIEWS" then return some (.text (terse ++ "VIEWS") :: (← shownClauses g))
  else if ← acceptWord "FUNCTIONS" then return some (.text "FUNCTIONS" :: (← shownFilter g))
  else return none

/-- Other things that may be shown. Some words count in one dialect only, and are passed over in the
other. -/
def showOther (f : ShownFlags) : Parse (List Piece) := do
  if ← acceptWord "CREATE" then
    let kind ← expectOneOf ["TABLE", "TRIGGER", "FUNCTION", "PROCEDURE", "EVENT", "VIEW"]
    return [.text ("CREATE " ++ kind ++ " " ++ (← objectName).render)]
  if ← acceptWord "COLLATION" then return .text "COLLATION" :: (← shownFilter g)
  for word in ["VARIABLES", "STATUS"] do
    if ← acceptWord word then
      if (← dialect) == .ansi then
        return .text (textIf f.global "GLOBAL " ++ textIf f.session "SESSION " ++ word) ::
          (← shownFilter g)
  match ← acceptOneOf ["DATABASES", "SCHEMAS"] with
  | some word =>
    let past := textIf (← acceptWord "HISTORY") " HISTORY"
    return .text (textIf f.terse "TERSE " ++ word ++ past) :: (← shownClauses g)
  | none => return [.text (" ".intercalate (← allWords))]

def show_ : Parse Statement := do
  let flags ← shownFlags
  let parts ← match ← showObjects g flags with
    | some parts => pure parts
    | none =>
      if flags.extended || flags.full then
        throw (.unsupported "EXTENDED/FULL are not supported with this type of SHOW query" .nowhere)
      showOther g flags
  let text := renderPieces parts
  return textStatement (if text.isEmpty then "SHOW" else "SHOW " ++ text)

end

end SqlFootprint.Sql.Parse
