import SqlFootprint.Sql.Parser.Phrase

/-!
# Reading transactions

The statements that open and close transactions, each from after its first word.
-/

namespace SqlFootprint.Sql.Parse

def transactionMode : Parse (Option String) := do
  if ← acceptWords ["ISOLATION", "LEVEL"] then
    let levels : List (List String) :=
      [["READ", "UNCOMMITTED"], ["READ", "COMMITTED"], ["REPEATABLE", "READ"], ["SERIALIZABLE"]]
    for level in levels do
      if ← acceptWords level then return some ("ISOLATION LEVEL " ++ " ".intercalate level)
    failNext "isolation level"
  else if ← acceptWords ["READ", "ONLY"] then return some "READ ONLY"
  else if ← acceptWords ["READ", "WRITE"] then return some "READ WRITE"
  else return none

/-- The modes of a transaction. Commas between them may be left out. -/
def transactionModes : Parse (List String) := do
  let (modes, _) ← extend ([], false) fun (modes, required) ↦ do
    match ← transactionMode with
    | some mode => return some (mode :: modes, ← acceptSymbol ",")
    | none => if required then failNext "transaction mode" else return none
  return modes.reverse

def modesText (modes : List String) : String :=
  listClause " " modes ""

/-- Whether the next transaction starts at once. -/
def chain : Parse String := do
  let _ ← acceptOneOf ["TRANSACTION", "WORK"]
  if ← acceptWord "AND" then
    let chained := !(← acceptWord "NO")
    expectWord "CHAIN"
    return textIf chained " AND CHAIN"
  else return ""

def startTransaction : Parse Statement := do
  expectWord "TRANSACTION"
  return textStatement ("START TRANSACTION" ++ modesText (← transactionModes))

def beginTransaction : Parse Statement := do
  let modifier ← if (← dialect) == .ansi then optionalWord ["DEFERRED", "IMMEDIATE", "EXCLUSIVE"]
    else pure ""
  let noun ← optionalWord ["TRANSACTION", "WORK"]
  return textStatement ("BEGIN" ++ modifier ++ noun ++ modesText (← transactionModes))

def commit : Parse Statement :=
  return textStatement ("COMMIT" ++ (← chain))

def rollback : Parse Statement := do
  let chained ← chain
  if ← acceptWord "TO" then
    let _ ← acceptWord "SAVEPOINT"
    return textStatement ("ROLLBACK" ++ chained ++ " TO SAVEPOINT " ++ (← ident).render)
  else return textStatement ("ROLLBACK" ++ chained)

def release : Parse Statement := do
  let _ ← acceptWord "SAVEPOINT"
  return textStatement ("RELEASE SAVEPOINT " ++ (← ident).render)

end SqlFootprint.Sql.Parse
