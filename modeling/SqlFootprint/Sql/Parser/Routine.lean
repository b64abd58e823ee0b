import SqlFootprint.Sql.Parser.Definition

/-!
# Reading routines

Functions, procedures, triggers and macros, each from after the word that names it.
-/

namespace SqlFootprint.Sql.Parse

section

variable (g : Grammar)

/-! ## Functions -/

/-- An argument of a function that is defined. A type that is not built in is taken for the name
of the argument, of which only the first part counts. -/
def functionArgument : Parse (List Piece) := do
  let mode ← match ← acceptOneOf ["IN", "OUT", "INOUT"] with
    | some word => pure (word ++ " ")
    | none => pure ""
  let shape ← match ← g.type with
    | .custom (name :: _) _ => pure (name.render ++ " " ++ (← g.type).render)
    | type => pure type.render
  let default ← if (← acceptWord "DEFAULT") || (← acceptSymbol "=") then
      pure [.text " = ", .expr (← g.expr)]
    else pure []
  return .text (mode ++ shape) :: default

/-- The clauses of a function in the order in which they are printed. -/
inductive FunctionClause where
  | language | behavior | nulls | parallel | body
deriving DecidableEq, Repr

/-- The clauses that a function has so far. -/
abbrev FunctionClauses := List (FunctionClause × List Piece)

namespace FunctionClauses

def pieces (c : FunctionClauses) : List Piece :=
  [.language, .behavior, .nulls, .parallel, .body].flatMap fun clause : FunctionClause ↦
    (c.lookup clause).getD []

end FunctionClauses

/-- What a function does, as text: a string, which is printed in single quotes. -/
def functionText : Parse String := do
  match (← next).token with
  | .string (.dollar tag) text =>
    let _ ← take
    return (StringForm.dollar tag).quoted text
  | _ => return quoteString (← stringText)

/-- A clause of a function. None may come twice. -/
def functionRound (c : FunctionClauses) : Parse (Option FunctionClauses) := do
  let add (clause : FunctionClause) (names : String) (item : Parse (List Piece)) :
      Parse (Option FunctionClauses) := do
    if (c.lookup clause).isSome then
      throw (.unsupported (names ++ " specified more than once") .nowhere)
    return some ((clause, ← item) :: c)
  let word (clause : FunctionClause) (names text : String) := add clause names (return [.text text])
  let onNull := word .nulls "CALLED ON NULL INPUT | RETURNS NULL ON NULL INPUT | STRICT"
  if ← acceptWord "AS" then add .body "AS" (return [.text (" AS " ++ (← functionText))])
  else if ← acceptWord "LANGUAGE" then
    add .language "LANGUAGE" (return [.text (" LANGUAGE " ++ (← ident).render)])
  else if ← acceptWords ["CALLED", "ON", "NULL", "INPUT"] then onNull " CALLED ON NULL INPUT"
  else if ← acceptWords ["RETURNS", "NULL", "ON", "NULL", "INPUT"] then
    onNull " RETURNS NULL ON NULL INPUT"
  else if ← acceptWord "STRICT" then onNull " STRICT"
  else if ← acceptWord "PARALLEL" then
    add .parallel "PARALLEL \x7b UNSAFE | RESTRICTED | SAFE \x7d" do
      match ← acceptOneOf ["UNSAFE", "RESTRICTED", "SAFE"] with
      | some mode => return [.text (" PARALLEL " ++ mode)]
      | none => failNext "one of UNSAFE | RESTRICTED | SAFE"
  else if ← acceptWord "RETURN" then
    add .body "RETURN" (return [.text " RETURN ", .expr (← g.expr)])
  else
    match ← acceptOneOf ["IMMUTABLE", "STABLE", "VOLATILE"] with
    | some behavior => word .behavior "IMMUTABLE | STABLE | VOLATILE" (" " ++ behavior)
    | none => return none

def createFunction (words : String) : Parse Statement := do
  let name := (← objectName).render
  let arguments ← parens (commaSepBefore ")" (functionArgument g))
  let result ← match ← afterWord "RETURNS" g.type with
    | some t => pure (" RETURNS " ++ t.render)
    | none => pure ""
  let clauses ← extend ([] : FunctionClauses) (functionRound g)
  let arguments := if arguments.isEmpty then [] else
    .text "(" :: (arguments.intersperse [.text ", "]).flatten ++ [.text ")"]
  return .other (.text ("CREATE " ++ words ++ "FUNCTION " ++ name) :: arguments ++
    .text result :: FunctionClauses.pieces clauses)

/-! ## Other routines -/

/-- A function by its name, and by its arguments if there are any. -/
def functionReference : Parse (List Piece) := do
  let name := (← objectName).render
  if ← acceptSymbol "(" then
    let arguments ← commaSepBefore ")" (functionArgument g)
    expectSymbol ")"
    if arguments.isEmpty then return [.text name]
    return .text (name ++ "(") :: (arguments.intersperse [.text ", "]).flatten ++ [.text ")"]
  else return [.text name]

/-- The parameters of a procedure. Parentheses may be left out. -/
def procedureParameters : Parse (List String) := do
  unless ← acceptSymbol "(" do return []
  if ← acceptSymbol ")" then return []
  let (parameters, _) ← extend ([], false) fun (parameters, closed) ↦ do
    if closed then return none
    let parameters ← match (← next).token with
      | .word _ =>
        let name := (← ident).render
        pure ((name ++ " " ++ (← g.type).render) :: parameters)
      | _ => pure parameters
    let comma ← acceptSymbol ","
    let closed ← acceptSymbol ")"
    if !comma && !closed then failNext "',' or ')' after parameter definition"
    return some (parameters, closed)
  return parameters.reverse

/-- A procedure, whose body is a list of statements. -/
def createProcedure (words : String) : Parse Statement := do
  let name := (← objectName).render
  let parameters ← procedureParameters g
  expectWords ["AS", "BEGIN"]
  let body ← statements g
  expectWord "END"
  return textStatement ("CREATE " ++ words ++ "PROCEDURE " ++ name ++
    listClause " (" parameters ")" ++ " AS BEGIN " ++
    "; ".intercalate (body.map Statement.render) ++ " END")

/-- What sets a trigger off. -/
def triggerEvent : Parse String := do
  match ← expectOneOf ["INSERT", "UPDATE", "DELETE", "TRUNCATE"] with
  | "UPDATE" =>
    match ← afterWord "OF" identNames with
    | some columns => return "UPDATE OF " ++ columns
    | none => return "UPDATE"
  | word => return word

/-- A name for the rows before or after the change. -/
def transitionTable : Parse (Option String) := do
  match ← acceptOneOf ["OLD", "NEW"] with
  | some word =>
    unless ← acceptWord "TABLE" do return none
    let as_ := textIf (← acceptWord "AS") " AS"
    return some (word ++ " TABLE" ++ as_ ++ " " ++ (← objectName).render)
  | none => return none

def createTrigger (words : String) : Parse Statement := do
  let name := (← objectName).render
  let period ← match ← expectOneOf ["BEFORE", "AFTER", "INSTEAD"] with
    | "INSTEAD" =>
      expectWord "OF"
      pure "INSTEAD OF"
    | word => pure word
  let event ← triggerEvent
  let events ← many (afterWord "OR" triggerEvent)
  expectWord "ON"
  let table := (← objectName).render
  let referred ← if ← acceptWord "FROM" then attemptPast objectName else pure none
  let source := match referred with
    | some name => " FROM " ++ name.render
    | none => ""
  let checking ← checking
  let transitions ← if ← acceptWord "REFERENCING" then many transitionTable else pure []
  expectWord "FOR"
  let each := textIf (← acceptWord "EACH") "EACH "
  let level ← expectOneOf ["ROW", "STATEMENT"]
  let condition ← match ← afterWord "WHEN" g.expr with
    | some e => pure [.text " WHEN (", .expr e, .text ")"]
    | none => pure []
  expectWord "EXECUTE"
  let kind ← expectOneOf ["FUNCTION", "PROCEDURE"]
  let routine ← functionReference g
  return .other (.text ("CREATE " ++ words ++ "TRIGGER " ++ name ++ " " ++ period ++ " " ++
    " OR ".intercalate (event :: events) ++ " ON " ++ table ++ source ++ checking ++
    (if transitions.isEmpty then "" else " REFERENCING " ++ " ".intercalate transitions) ++
    " FOR " ++ each ++ level) :: condition ++ .text (" EXECUTE " ++ kind ++ " ") :: routine)

/-- An expression or a query with a name and arguments. -/
def createMacro (words : String) : Parse Statement := do
  let name := (← objectName).render
  let arguments ← parens <| commaSepBefore ")" do
    let name := (← ident).render
    if (← acceptSymbol ":=") || (← acceptSymbol "=>") then
      return [.text (name ++ " := "), .expr (← g.expr)]
    else return [.text name]
  expectWord "AS"
  let head := .text ("CREATE " ++ words ++ "MACRO " ++ name) ::
    (if arguments.isEmpty then []
      else .text "(" :: (arguments.intersperse [.text ", "]).flatten ++ [.text ")"])
  if ← acceptWord "TABLE" then return .other (head ++ [.text " AS TABLE ", .query (← g.query)])
  else return .other (head ++ [.text " AS ", .expr (← g.expr)])

end

end SqlFootprint.Sql.Parse
