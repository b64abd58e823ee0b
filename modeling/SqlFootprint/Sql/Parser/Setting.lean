import SqlFootprint.Sql.Parser.Expr
import SqlFootprint.Sql.Parser.Transaction

/-!
# Reading settings

The statements that change how a session behaves, each from after its first word.
-/

namespace SqlFootprint.Sql.Parse

def setRole (modifier : Option String) : Parse Statement := do
  expectWord "ROLE"
  let role ← if ← acceptWord "NONE" then pure "NONE" else Ident.render <$> ident
  return textStatement ("SET" ++ labelled " " modifier ++ " ROLE " ++ role)

/-- The sign between a setting and its value. -/
def assigns : Parse Bool := do
  if ← acceptSymbol "=" then return true else acceptWord "TO"

section

variable (g : Grammar)

/-- One value of a setting. A query needs no parentheses, but is printed in them. -/
def settingValue : Parse Expr := do
  if ← atQuery then return .subquery (← g.query)
  match ← attemptPast g.expr with
  | some e => return e
  | none => failNext "variable value"

/-- Several settings at once, in parentheses. The values of a single one lose theirs. -/
def setTuple (words : String) : Parse Statement := do
  let names ← parens (commaSep ident)
  unless ← assigns do failNext "set variable"
  let values ← parens (commaSep (settingValue g))
  let (before, after) := if names.length > 1 then ("(", ")") else ("", "")
  return .other (.text ("SET " ++ words ++ columnNames names ++ " = " ++ before) ::
    commaPieces values ++ [.text after])

/-- The character set of the session. -/
def setNames : Parse Statement := do
  if ← acceptWord "DEFAULT" then return textStatement "SET NAMES DEFAULT"
  let charset ← stringText
  let collation ← afterWord "COLLATE" stringText
  return textStatement ("SET NAMES " ++ charset ++ labelled " COLLATE " collation)

/-- What a name alone sets. Two names that open a clause of their own count in one case only. -/
def setClause (modifier : Option String) (words name : String) : Parse Statement := do
  if Text.sameName name "TIMEZONE" then
    match ← attemptPast g.expr with
    | some e => return .other [.text ("SET " ++ words ++ "TIME ZONE "), .expr e]
    | none => failNext "timezone value"
  else if name == "CHARACTERISTICS" then
    expectWords ["AS", "TRANSACTION"]
    return textStatement ("SET SESSION CHARACTERISTICS AS TRANSACTION" ++
      modesText (← transactionModes))
  else if name == "TRANSACTION" && modifier.isNone then
    if ← acceptWord "SNAPSHOT" then
      return textStatement ("SET TRANSACTION SNAPSHOT " ++ (← value))
    return textStatement ("SET TRANSACTION" ++ modesText (← transactionModes))
  else failNext "equals sign or TO"

/-- A change of a setting. -/
def set_ : Parse Statement := do
  let modifier ← acceptOneOf ["SESSION", "LOCAL", "HIVEVAR"]
  let role ← if modifier == some "HIVEVAR" then
      expectSymbol ":"
      pure none
    else attempt (setRole modifier)
  if let some s := role then return s
  let local_ := textIf (modifier == some "LOCAL") "LOCAL "
  let words := local_ ++ textIf (modifier == some "HIVEVAR") "HIVEVAR:"
  let zone ← acceptWords ["TIME", "ZONE"]
  if !zone then
    if ← permissive (atSymbol "(") then return ← setTuple g words
  let name ← if zone then pure "TIMEZONE" else ObjectName.render <$> objectName
  if Text.sameName name "NAMES" && (← dialect) == .ansi then return ← setNames
  if ← assigns then
    let values ← commaSep (settingValue g)
    return .other (.text ("SET " ++ words ++ name ++ " = ") :: commaPieces values)
  setClause g modifier local_ name

end

/-- A value of a setting of a database file: a string, a number or a placeholder. -/
def pragmaValue : Parse String := do
  let t ← next
  let text ← value
  match t.token with
  | .string .plain _ | .number .. | .placeholder _ | .symbol _ => return text
  | .word ⟨_, some _, _⟩ => return text
  | _ => failAt "number or string or ? placeholder" t

/-- A setting of a database file. -/
def pragma : Parse Statement := do
  let name := (← objectName).render
  if ← acceptSymbol "(" then
    let v ← pragmaValue
    expectSymbol ")"
    return textStatement ("PRAGMA " ++ name ++ "(" ++ v ++ ")")
  else if ← acceptSymbol "=" then
    return textStatement ("PRAGMA " ++ name ++ " = " ++ (← pragmaValue))
  else return textStatement ("PRAGMA " ++ name)

def discard : Parse Statement := do
  match ← acceptOneOf ["ALL", "PLANS", "SEQUENCES", "TEMP", "TEMPORARY"] with
  | some "TEMPORARY" => return textStatement "DISCARD TEMP"
  | some word => return textStatement ("DISCARD " ++ word)
  | none => failNext "ALL, PLANS, SEQUENCES, TEMP or TEMPORARY after DISCARD"

def kill : Parse Statement := do
  let kind ← optionalWord ["CONNECTION", "QUERY", "MUTATION"]
  let number ← wholeNumber
  if kind == " MUTATION" && (← dialect) == .postgres then
    failNext "Unsupported type for KILL, allowed: CONNECTION | QUERY"
  return textStatement ("KILL" ++ kind ++ " " ++ toString number)

end SqlFootprint.Sql.Parse
