import SqlFootprint.Sql.Parser.Expr
import SqlFootprint.Sql.Parser.Phrase

/-!
# Reading rights

Who may do what: grants, roles and policies, each from after the word that names it.
-/

namespace SqlFootprint.Sql.Parse

/-! ## Rights -/

def privilege : Parse String := do
  let words := ["CONNECT", "CREATE", "DELETE", "EXECUTE", "INSERT", "REFERENCES", "SELECT",
    "TEMPORARY", "TRIGGER", "TRUNCATE", "UPDATE", "USAGE"]
  match ← acceptOneOf words with
  | some word =>
    if ["INSERT", "REFERENCES", "SELECT", "UPDATE"].contains word then
      let columns ← identList true false
      return word ++ if columns.isEmpty then "" else " " ++ columnNames columns
    else return word
  | none => failNext "a privilege keyword"

/-- What is allowed on what. -/
def privileges : Parse String := do
  let actions ← if ← acceptWord "ALL" then
      pure ("ALL" ++ textIf (← acceptWord "PRIVILEGES") " PRIVILEGES")
    else pure (commaList (← commaSep privilege))
  expectWord "ON"
  let objects ←
    if ← acceptWords ["ALL", "TABLES", "IN", "SCHEMA"] then
      pure ("ALL TABLES IN SCHEMA " ++ (← objectNames))
    else if ← acceptWords ["ALL", "SEQUENCES", "IN", "SCHEMA"] then
      pure ("ALL SEQUENCES IN SCHEMA " ++ (← objectNames))
    else
      match ← acceptOneOf ["SEQUENCE", "SCHEMA", "TABLE"] with
      | some "TABLE" | none => objectNames
      | some kind => pure (kind ++ " " ++ (← objectNames))
  return actions ++ " ON " ++ objects

def grantedBy : Parse String := do
  if ← acceptWords ["GRANTED", "BY"] then return " GRANTED BY " ++ (← ident).render else return ""

def grant : Parse Statement := do
  let rights ← privileges
  expectWord "TO"
  let users ← identNames
  let passing := textIf (← acceptWords ["WITH", "GRANT", "OPTION"]) " WITH GRANT OPTION"
  return textStatement ("GRANT " ++ rights ++ " TO " ++ users ++ passing ++ (← grantedBy))

def revoke : Parse Statement := do
  let rights ← privileges
  expectWord "FROM"
  let users ← identNames
  let by_ ← grantedBy
  let place ← next
  let cascade ← acceptWord "CASCADE"
  let restrict ← acceptWord "RESTRICT"
  if cascade && restrict then
    throw (.unsupported "Cannot specify both CASCADE and RESTRICT in REVOKE" place)
  return textStatement ("REVOKE " ++ rights ++ " FROM " ++ users ++ by_ ++
    if cascade then " CASCADE" else " RESTRICT")

/-- Who owns something. -/
def owner : Parse String := do
  match ← acceptOneOf ["CURRENT_USER", "CURRENT_ROLE", "SESSION_USER"] with
  | some word => return word
  | none =>
    match ← outcome ident with
    | .ok name => return name.render
    | .error fault => throw (.noOwner fault)

/-! ## Roles -/

/-- Whether a word denies what the rest of it says. -/
def denied (word : String) : Bool :=
  word.startsWith "NO"

/-- What a role may do, each word with its opposite, in the order in which they are printed. -/
def roleFlags : List String :=
  ["SUPERUSER", "CREATEDB", "CREATEROLE", "INHERIT", "LOGIN", "REPLICATION", "BYPASSRLS"]

/-- The clauses of a role in the order in which they are printed. The flags come before them. -/
def roleClauses : List String :=
  ["CONNECTION LIMIT", "PASSWORD", "VALID UNTIL", "IN ROLE", "IN GROUP", "ROLE", "USER", "ADMIN"]

/-- What a new role is given so far: each clause or flag with its printed form. -/
abbrev RoleChoices := List (String × String)

def RoleChoices.render (c : RoleChoices) : String :=
  "".intercalate ((roleFlags ++ roleClauses).filterMap fun key ↦ (c.lookup key).map (" " ++ ·))

def roleRound (c : RoleChoices) : Parse (Option RoleChoices) := do
  let place ← next
  let add (key kind : String) (text : Parse String) : Parse (Option RoleChoices) := do
    if (c.lookup key).isSome then throw (.unsupported ("Found multiple " ++ kind) place)
    return some ((key, ← text) :: c)
  let clause (key : String) (item : Parse String) : Parse (Option RoleChoices) :=
    add key key (return key ++ " " ++ (← item))
  match ← acceptOneOf (roleFlags ++ roleFlags.map ("NO" ++ ·)) with
  | some word =>
    let key := if denied word then (word.drop 2).toString else word
    add key (key ++ " or NO" ++ key) (return word)
  | none =>
    match ← acceptOneOf ["PASSWORD", "CONNECTION", "VALID", "IN", "ROLE", "ADMIN", "USER"] with
    | none => return none
    | some "PASSWORD" => clause "PASSWORD" do
      if ← acceptWord "NULL" then return "NULL" else value
    | some "CONNECTION" =>
      expectWord "LIMIT"
      clause "CONNECTION LIMIT" number
    | some "VALID" =>
      expectWord "UNTIL"
      clause "VALID UNTIL" value
    | some "IN" =>
      if ← acceptWord "ROLE" then clause "IN ROLE" identNames
      else if ← acceptWord "GROUP" then clause "IN GROUP" identNames
      else failNext "ROLE or GROUP after IN"
    | some word => clause word identNames

/-- A new role. Only one dialect gives it anything. -/
def createRole : Parse Statement := do
  let guarded ← ifNotExists
  let names ← objectNames
  let _ ← acceptWord "WITH"
  let choices ← if (← dialect) == .postgres then extend ([] : RoleChoices) roleRound else pure []
  return textStatement ("CREATE ROLE " ++ guarded ++ names ++ RoleChoices.render choices)

/-- Something that a role is given when it is changed. -/
def roleOption : Parse String := do
  match ← acceptOneOf (roleFlags ++ roleFlags.map ("NO" ++ ·)) with
  | some word => return word
  | none =>
    if ← acceptWords ["CONNECTION", "LIMIT"] then return "CONNECTION LIMIT " ++ (← number)
    else if ← acceptWord "PASSWORD" then
      if ← acceptWord "NULL" then return "PASSWORD NULL" else return "PASSWORD " ++ (← value)
    else if ← acceptWords ["VALID", "UNTIL"] then return "VALID UNTIL " ++ (← value)
    else failNext "option"

section

variable (g : Grammar)

/-- The new value of a setting of a role. -/
def roleSetting (place : String) : Parse (List Piece) := do
  let head := place ++ "SET " ++ (← objectName).render
  if ← acceptWords ["FROM", "CURRENT"] then return [.text (head ++ " FROM CURRENT")]
  else if (← acceptSymbol "=") || (← acceptWord "TO") then
    if ← acceptWord "DEFAULT" then return [.text (head ++ " TO DEFAULT")]
    match ← attemptPast g.expr with
    | some e => return [.text (head ++ " TO "), .expr e]
    | none => failNext "config value"
  else failNext "'TO' or '=' or 'FROM CURRENT'"

def alterRole : Parse Statement := do
  if (← dialect) != .postgres then
    throw (.unsupported "ALTER ROLE is only support for PostgreSqlDialect, MsSqlDialect"
      .nowhere)
  let head := "ALTER ROLE " ++ (← ident).render ++ " "
  let database ← if ← acceptWords ["IN", "DATABASE"] then attemptPast objectName else pure none
  let place := match database with
    | some name => "IN DATABASE " ++ name.render ++ " "
    | none => ""
  if ← acceptWord "RENAME" then
    unless ← acceptWord "TO" do failNext "TO after RENAME"
    return textStatement (head ++ "RENAME TO " ++ (← ident).render)
  else if ← acceptWord "SET" then return .other (.text head :: (← roleSetting g place))
  else if ← acceptWord "RESET" then
    if ← acceptWord "ALL" then return textStatement (head ++ place ++ "RESET ALL")
    return textStatement (head ++ place ++ "RESET " ++ (← objectName).render)
  else
    let _ ← acceptWord "WITH"
    let options ← many (attempt roleOption)
    if options.isEmpty then failNext "option"
    return textStatement (head ++ "WITH " ++ " ".intercalate options)

/-! ## Policies -/

/-- Whom a policy binds and what it asks of the rows. -/
def policyTerms : Parse (List Piece) := do
  let bound ← match ← afterWord "TO" (commaSep owner) with
    | some owners => pure [.text (" TO " ++ commaList owners)]
    | none => pure []
  let using_ ← match ← afterWord "USING" (parens g.expr) with
    | some e => pure [.text " USING (", .expr e, .text ")"]
    | none => pure []
  let check ← if ← acceptWords ["WITH", "CHECK"] then
      pure [.text " WITH CHECK (", .expr (← parens g.expr), .text ")"]
    else pure []
  return bound ++ using_ ++ check

def createPolicy : Parse Statement := do
  let name := (← ident).render
  expectWord "ON"
  let table := (← objectName).render
  let kind ← match ← afterWord "AS" (expectOneOf ["PERMISSIVE", "RESTRICTIVE"]) with
    | some word => pure (" AS " ++ word)
    | none => pure ""
  let action ← match ← afterWord "FOR" (expectOneOf ["ALL", "SELECT", "INSERT", "UPDATE", "DELETE"])
    with
    | some word => pure (" FOR " ++ word)
    | none => pure ""
  return .other (.text ("CREATE POLICY " ++ name ++ " ON " ++ table ++ kind ++ action) ::
    (← policyTerms g))

def alterPolicy : Parse Statement := do
  let name := (← ident).render
  expectWord "ON"
  let head := "ALTER POLICY " ++ name ++ " ON " ++ (← objectName).render
  if ← acceptWord "RENAME" then
    expectWord "TO"
    return textStatement (head ++ " RENAME TO " ++ (← ident).render)
  else return .other (.text head :: (← policyTerms g))

end

end SqlFootprint.Sql.Parse
