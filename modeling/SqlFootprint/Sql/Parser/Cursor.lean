import SqlFootprint.Sql.Parser.Expr
import SqlFootprint.Sql.Parser.Phrase

/-!
# Reading prepared statements and cursors

What is prepared, run, opened and fetched from, each from after its first word.
-/

namespace SqlFootprint.Sql.Parse

section

variable (g : Grammar)

/-! ## Prepared statements and cursors -/

def prepare : Parse Statement := do
  let name ← ident
  let types ← if ← acceptSymbol "(" then
      let types ← commaSep g.type
      expectSymbol ")"
      pure ("(" ++ commaList (types.map DataType.render) ++ ") ")
    else pure ""
  expectWord "AS"
  let statement ← g.statement
  return textStatement ("PREPARE " ++ name.render ++ " " ++ types ++ "AS " ++ statement.render)

def execute : Parse Statement := do
  let name := (← objectName).render
  let (before, parameters, after) ←
    if ← acceptSymbol "(" then
      let parameters ← commaSepBefore ")" g.expr
      expectSymbol ")"
      pure ("(", parameters, ")")
    else
      let atEnd := match (← next).token with
        | .endOfInput | .symbol ";" => true
        | t => t.keyword == "USING"
      let parameters ← if atEnd then pure [] else g.exprs
      pure (textIf (!parameters.isEmpty) " ", parameters, "")
  let using_ ← match ← afterWord "USING" g.exprs with
    | some es => pure (.text " USING " :: commaPieces es)
    | none => pure []
  return .other (.text ("EXECUTE " ++ name ++ before) :: commaPieces parameters ++
    .text after :: using_)

def deallocate : Parse Statement := do
  let prepared := textIf (← acceptWord "PREPARE") "PREPARE "
  return textStatement ("DEALLOCATE " ++ prepared ++ (← ident).render)

def declare_ : Parse Statement := do
  let name := (← ident).render
  let binary := textIf (← acceptWord "BINARY") " BINARY"
  let sensitive ← optionalWord ["INSENSITIVE", "ASENSITIVE"]
  let scroll ←
    if ← acceptWord "SCROLL" then pure " SCROLL"
    else pure (textIf (← acceptWords ["NO", "SCROLL"]) " NO SCROLL")
  expectWord "CURSOR"
  let hold ← match ← acceptOneOf ["WITH", "WITHOUT"] with
    | some word =>
      expectWord "HOLD"
      pure (" " ++ word ++ " HOLD")
    | none => pure ""
  expectWord "FOR"
  return .other [.text ("DECLARE " ++ name ++ binary ++ sensitive ++ scroll ++ " CURSOR" ++ hold ++
    " FOR "), .query (← g.query)]

def fetchDirection : Parse String := do
  match ← acceptOneOf ["NEXT", "PRIOR", "FIRST", "LAST", "ALL"] with
  | some word => return word
  | none =>
    match ← acceptOneOf ["ABSOLUTE", "RELATIVE", "FORWARD", "BACKWARD"] with
    | some word =>
      if word == "FORWARD" || word == "BACKWARD" then
        if ← acceptWord "ALL" then return word ++ " ALL"
      return word ++ " " ++ (← number)
    | none => number

def fetchCursor : Parse Statement := do
  let direction ← fetchDirection
  let _ ← expectOneOf ["FROM", "IN"]
  let name := (← ident).render
  let into ← match ← afterWord "INTO" objectName with
    | some target => pure (" INTO " ++ target.render)
    | none => pure ""
  return textStatement ("FETCH " ++ direction ++ " IN " ++ name ++ into)

def closeCursor : Parse Statement := do
  if ← acceptWord "ALL" then return textStatement "CLOSE ALL"
  else return textStatement ("CLOSE " ++ (← ident).render)

/-- A call of a procedure, with or without arguments. -/
def callStatement : Parse Statement := do
  let name ← objectName
  if ← atSymbol "(" then return .other [.text "CALL ", .expr (← call g name)]
  else return textStatement ("CALL " ++ name.render)

end

end SqlFootprint.Sql.Parse
