import SqlFootprint.Sql.Parser.Write

/-!
# Reading queries

`SELECT`, set operations, common table expressions, and the clauses around them.
-/

namespace SqlFootprint.Sql.Parse

section

variable (g : Grammar)

/-! ## The select list -/

/-- `DISTINCT`, with the expressions that it looks at. -/
def distinct : Parse (List Piece) := do
  let start ← next
  let all ← acceptWord "ALL"
  if ← acceptWord "DISTINCT" then
    if all then throw (.bothTreatments start)
    if ← acceptWord "ON" then
      let keys ← parens (commaSepBefore ")" g.expr)
      return .text " DISTINCT ON (" :: commaPieces keys ++ [.text ")"]
    else return [.text " DISTINCT"]
  else return []

/-- `TOP` and how many rows. -/
def top : Parse (List Piece) := do
  if ← acceptWord "TOP" then
    let quantity ← if ← acceptSymbol "(" then
        let e ← g.expr
        expectSymbol ")"
        pure [.text " TOP (", .expr e, .text ")"]
      else pure [.text (" TOP " ++ toString (← wholeNumber))]
    let percent := if ← acceptWord "PERCENT" then " PERCENT" else ""
    let ties := if ← acceptWords ["WITH", "TIES"] then " WITH TIES" else ""
    return quantity ++ [.text (percent ++ ties)]
  else return []

def selectInto : Parse (List Piece) := do
  if ← acceptWord "INTO" then
    let temporary := (← acceptOneOf ["TEMP", "TEMPORARY"]).isSome
    let unlogged ← acceptWord "UNLOGGED"
    let table ← acceptWord "TABLE"
    let name ← objectName
    return [.text (" INTO" ++ (if temporary then " TEMPORARY" else "") ++
      (if unlogged then " UNLOGGED" else "") ++ (if table then " TABLE" else "") ++ " " ++
      name.render)]
  else return []

/-! ## Clauses of a selection -/

def lateralView : Parse (Option (List Piece)) := do
  if ← acceptWords ["LATERAL", "VIEW"] then
    let outer := if ← acceptWord "OUTER" then " OUTER" else ""
    let e ← g.expr
    let name ← objectName
    let aliases ← commaSep (optionalAlias ["WHERE", "GROUP", "CLUSTER", "HAVING", "LATERAL"])
    let names := aliases.filterMap (·.map Ident.render)
    return some [.text (" LATERAL VIEW" ++ outer ++ " "), .expr e,
      .text (" " ++ name.render ++ listClause " AS " names "")]
  else return none

/-- A list of expressions, which `lift` allows to stand without parentheses if it is alone. -/
def exprTuple (lift : Bool) : Parse (List Expr) := do
  if ← (if lift then return !(← atSymbol "(") else pure false) then return [← g.expr]
  else parens (commaSepBefore ")" g.expr)

/-- The text of a grouping set. -/
def setPieces (lift : Bool) (set : List Expr) : List Piece :=
  if lift && set.length == 1 then commaPieces set
  else .text "(" :: commaPieces set ++ [.text ")"]

/-- What follows `GROUP BY`: an expression, or a list of groupings. -/
def groupKey : Parse Expr := do
  let sets (word : String) (lift : Bool) : Parse (List Piece) := do
    let sets ← parens (commaSep (exprTuple g lift))
    return .text (word ++ " (") :: ((sets.map (setPieces lift)).intersperse [.text ", "]).flatten ++
      [.text ")"]
  if ← acceptWords ["GROUPING", "SETS"] then return .groupingSets (← sets "GROUPING SETS" false)
  else if ← acceptWord "CUBE" then return .template (← sets "CUBE" true)
  else if ← acceptWord "ROLLUP" then return .template (← sets "ROLLUP" true)
  else if (← atSymbol "(") && (← peek 1).token.isSymbol ")" then
    modify (· + 2)
    return .template [.text "()"]
  else g.expr

def grouping : Parse Grouping := do
  if ← acceptWords ["GROUP", "BY"] then
    let keys ← if ← acceptWord "ALL" then pure none else some <$> commaSep (groupKey g)
    let modifiers ← many do
      if ← permissive (acceptWord "WITH") then
        return some (" WITH " ++ (← expectOneOf ["ROLLUP", "CUBE", "TOTALS"]))
      else return none
    let modifiers := String.join modifiers
    match keys with
    | some keys => return .keys keys modifiers
    | none => return .all modifiers
  else return .keys [] ""

/-- Expressions after two words. -/
def byClause (first : String) : Parse (List Piece) := do
  if ← acceptWords [first, "BY"] then
    return .text (" " ++ first ++ " BY ") :: commaPieces (← g.exprs)
  else return []

/-- The inside of a window in a position where it is only printed. -/
def windowPieces : Window → List Piece
  | .none => []
  | .named name => [.text name.render]
  | .spec base partition order frame =>
    let parts : List (List Piece) :=
      (base.toList.map fun name ↦ [.text name.render]) ++
      (if partition.isEmpty then [] else [.text "PARTITION BY " :: commaPieces partition]) ++
      (if order.isEmpty then [] else [.text "ORDER BY " :: orderPieces order]) ++
      if frame.isEmpty then [] else [frame]
    .text "(" :: (parts.intersperse [.text " "]).flatten ++ [.text ")"]

def namedWindow : Parse (List Piece) := do
  let name ← ident
  expectWord "AS"
  let window ←
    if ← acceptSymbol "(" then windowSpec g
    else if (← dialect) == .ansi then pure (.named (← ident))
    else failNext "("
  return .text (name.render ++ " AS ") :: windowPieces window

def windowClause : Parse (List Piece) := do
  match ← afterWord "WINDOW" (commaSep (namedWindow g)) with
  | some windows => return .text " WINDOW " :: (windows.intersperse [.text ", "]).flatten
  | none => return []

/-- A walk along a hierarchy, whose two parts may come in any order. -/
def hierarchy : Parse (List Piece) := do
  let links : Parse (List Expr) := fun r ↦ g.exprs { r with linking := true }
  let start : Parse Expr := do
    expectWords ["START", "WITH"]
    g.expr
  let result (condition : Expr) (links : List Expr) : List Piece :=
    .text " START WITH " :: .expr condition :: .text " CONNECT BY " :: commaPieces links
  if ← permissive (return ["START", "CONNECT"].contains (← next).token.keyword) then
    if ← acceptWords ["CONNECT", "BY"] then
      let links ← links
      return result (← start) links
    else
      let condition ← start
      expectWords ["CONNECT", "BY"]
      return result condition (← links)
  else return []

def select : Parse Select := do
  expectWord "SELECT"
  let distinct ← distinct g
  let head := distinct ++ (← top g)
  let projection ← commaSep (selectItem g)
  let into ← selectInto
  let sources ← if ← acceptWord "FROM" then sources g else pure []
  let views ← many (lateralView g)
  let early ← if (← dialect) == .ansi then wordExpr g "PREWHERE" else pure []
  let condition ← filter g
  let grouping ← grouping g
  let cluster ← byClause g "CLUSTER"
  let distribute ← byClause g "DISTRIBUTE"
  let sort ← byClause g "SORT"
  let having ← afterWord "HAVING" g.expr
  let windows ← windowClause g
  let qualify ← wordExpr g "QUALIFY"
  let moreWindows ← if windows.isEmpty && !qualify.isEmpty then windowClause g else pure []
  let hierarchy ← hierarchy g
  return ⟨head, projection, into, sources, views.flatten ++ early, condition, grouping,
    cluster ++ distribute ++ sort, having, windows ++ qualify ++ moreWindows ++ hierarchy⟩

/-! ## Set operations -/

/-- A table in the place of a query. Three tokens are taken, whatever they are. -/
def wholeTable : Parse String := do
  let first ← take
  let second ← take
  let third ← take
  let word (what : String) (t : Located) : Parse String := do
    match t.token with
    | .word w => return w.text
    | _ => failAt what t
  if second.token.isSymbol "." then
    let schema ← word "Schema name" first
    return "TABLE " ++ schema ++ "." ++ (← word "Table name" third)
  else return "TABLE " ++ (← word "Table name" first)

def setOp? (keyword : String) : Option (SetOp × Nat) :=
  match keyword with
  | "UNION" => some (.union, 10)
  | "EXCEPT" => some (.except, 10)
  | "INTERSECT" => some (.intersect, 20)
  | _ => none

def setQuantifier : Parse String := do
  if ← acceptWords ["DISTINCT", "BY", "NAME"] then return " DISTINCT BY NAME"
  else if ← acceptWords ["BY", "NAME"] then return " BY NAME"
  else if ← acceptWords ["ALL", "BY", "NAME"] then return " ALL BY NAME"
  else if ← acceptWord "ALL" then return " ALL"
  else if ← acceptWord "DISTINCT" then return " DISTINCT"
  else return ""

/-- What set operations join. -/
def setOperand : Parse SetExpr := do
  if ← atWord "SELECT" then return .select (← select g)
  else if ← atSymbol "(" then return .query (← parens g.query)
  else if ← acceptWord "VALUES" then return .values (← valueRows g)
  else if ← acceptWord "TABLE" then return .other [.text (← wholeTable)]
  else failNext "SELECT, VALUES, or a subquery in the query body"

def setExprRule (level : Nat) : Parse SetExpr := do
  let first ← setOperand g
  extend first fun left ↦ do
    match setOp? (← next).token.keyword with
    | some (op, found) =>
      if found ≤ level then return none
      let _ ← take
      let quantifier ← setQuantifier
      return some (.operation op quantifier left (← g.setExpr found))
    | none => return none

/-! ## Queries -/

/-- What may stand between `AS` and the query of a common table expression. -/
def cteMode : Parse String := do
  if (← dialect) != .postgres then return ""
  if ← acceptWord "MATERIALIZED" then return "MATERIALIZED "
  else if ← acceptWords ["NOT", "MATERIALIZED"] then return "NOT MATERIALIZED "
  else return ""

def cte : Parse Cte := do
  let name ← ident
  let columns ← if ← acceptWord "AS" then pure [] else
      let columns ← aliasColumns g
      expectWord "AS"
      pure columns
  let mode ← cteMode
  let query ← parens g.query
  let after := match ← afterWord "FROM" ident with
    | some source => " FROM " ++ source.render
    | none => ""
  return ⟨⟨name, columns⟩, mode, query, after⟩

/-- Values for the rows that filling adds. -/
def interpolation : Parse (List Piece) := do
  if ← permissive (acceptWord "INTERPOLATE") then
    if ← acceptSymbol "(" then
      let items ← commaSepBefore ")" do
        let column ← ident
        match ← afterWord "AS" g.expr with
        | some e => return [.text (column.render ++ " AS "), .expr e]
        | none => return [.text column.render]
      expectSymbol ")"
      return .text " INTERPOLATE (" :: (items.intersperse [.text ", "]).flatten ++ [.text ")"]
    else return [.text " INTERPOLATE"]
  else return []

def offset : Parse (List Piece) := do
  let e ← g.expr
  let rows := match ← acceptOneOf ["ROW", "ROWS"] with
    | some word => " " ++ word
    | none => ""
  return [.text " OFFSET ", .expr e, .text rows]

/-- How many rows to return and to skip, in any order. -/
structure Bounds where
  limit : Option Expr := none
  offset : List Piece := []

/-- One round of reading bounds, none of which is read twice. -/
def boundsRound (b : Bounds) : Parse Bounds := do
  let limit ← if b.limit.isSome then pure b.limit
    else if ← acceptWord "LIMIT" then
      if ← acceptWord "ALL" then pure none else some <$> g.expr
    else pure none
  let skipped ← if !b.offset.isEmpty then pure b.offset
    else if ← acceptWord "OFFSET" then offset g
    else pure []
  match limit with
  | some count =>
    if ← (if skipped.isEmpty then permissive (acceptSymbol ",") else pure false) then
      return ⟨some (← g.expr), [.text " OFFSET ", .expr count]⟩
    else return ⟨limit, skipped⟩
  | none => return ⟨limit, skipped⟩

def fetch : Parse (List Piece) := do
  if ← acceptWord "FETCH" then
    let _ ← expectOneOf ["FIRST", "NEXT"]
    let quantity ← if (← acceptOneOf ["ROW", "ROWS"]).isSome then pure ""
      else
        let n ← value
        let percent := if ← acceptWord "PERCENT" then " PERCENT" else ""
        let _ ← expectOneOf ["ROW", "ROWS"]
        pure (" " ++ n ++ percent)
    let ties ←
      if ← acceptWord "ONLY" then pure " ONLY"
      else if ← acceptWords ["WITH", "TIES"] then pure " WITH TIES"
      else failNext "one of ONLY or WITH TIES"
    return [.text (" FETCH FIRST" ++ quantity ++ " ROWS" ++ ties)]
  else return []

/-- A string in parentheses, printed in quotes. -/
def quotedParens : Parse String :=
  return "('" ++ (← parens stringText) ++ "')"

/-- A root element around an answer, if one comes next. -/
def rootElement? : Parse (Option String) := do
  match ← afterWord "ROOT" quotedParens with
  | some name => return some (", ROOT" ++ name)
  | none => return none

/-- The choices after the form of an answer: each is named after a comma, the last of several of
one kind counts, and a comma may also stand alone. They are printed in the order of `keys`. -/
def answerChoices (keys : List String) (choice : Parse (Option (String × String))) :
    Parse String := do
  let choices ← extend [] fun choices ↦ do
    if ← acceptSymbol "," then
      match ← choice with
      | some c => return some (c :: choices)
      | none => return some choices
    else return none
  return "".intercalate (keys.filterMap (List.lookup · choices))

/-- An answer in XML, from after the word. -/
def xmlAnswer : Parse String := do
  let form ← match ← acceptOneOf ["RAW", "AUTO", "EXPLICIT", "PATH"] with
    | some word =>
      if (word == "RAW" || word == "PATH") && (← atSymbol "(") then pure (word ++ (← quotedParens))
      else pure word
    | none => throw (.unsupported "Expected FOR XML [RAW | AUTO | EXPLICIT | PATH ]" .nowhere)
  let choices ← answerChoices ["BINARY", "TYPE", "ROOT", "ELEMENTS"] do
    if ← acceptWord "ELEMENTS" then return some ("ELEMENTS", ", ELEMENTS")
    else if ← acceptWord "BINARY" then
      expectWord "BASE64"
      return some ("BINARY", ", BINARY BASE64")
    else if ← acceptWord "TYPE" then return some ("TYPE", ", TYPE")
    else return (← rootElement?).map ("ROOT", ·)
  return " FOR XML " ++ form ++ choices

/-- An answer in JSON, from after the word. -/
def jsonAnswer : Parse String := do
  let form ← match ← acceptOneOf ["AUTO", "PATH"] with
    | some word => pure word
    | none => throw (.unsupported "Expected FOR JSON [AUTO | PATH ]" .nowhere)
  let flags := ["INCLUDE_NULL_VALUES", "WITHOUT_ARRAY_WRAPPER"]
  let choices ← answerChoices ("ROOT" :: flags) do
    match ← acceptOneOf flags with
    | some word => return some (word, ", " ++ word)
    | none => return (← rootElement?).map ("ROOT", ·)
  return " FOR JSON " ++ form ++ choices

/-- The form of an answer, from after `FOR`. -/
def answerForm? : Parse (Option String) := do
  if ← acceptWord "XML" then return some (← xmlAnswer)
  else if ← acceptWord "JSON" then return some (← jsonAnswer)
  else if ← acceptWord "BROWSE" then return some " FOR BROWSE"
  else return none

/-- A lock or the form of the answer, after `FOR`, and whether it ends such clauses. -/
def forClause : Parse (Option (List Piece × Bool)) := do
  if ← acceptWord "FOR" then
    if let some form ← answerForm? then return some ([.text form], true)
    let kind ← expectOneOf ["UPDATE", "SHARE"]
    let of_ ← match ← afterWord "OF" objectName with
      | some name => pure (" OF " ++ name.render)
      | none => pure ""
    let wait ←
      if ← acceptWord "NOWAIT" then pure " NOWAIT"
      else if ← acceptWords ["SKIP", "LOCKED"] then pure " SKIP LOCKED"
      else pure ""
    return some ([.text (" FOR " ++ kind ++ of_ ++ wait)], false)
  else return none

/-- Any number of locks, and then perhaps the form of the answer. -/
def forClauses : Parse (List Piece) := do
  let (clauses, _) ← extend ([], false) fun (clauses, ended) ↦ do
    if ended then return none
    match ← forClause with
    | some (clause, ends) => return some (clauses ++ clause, ends)
    | none => return none
  return clauses

def formatClause : Parse (List Piece) := do
  if ← permissive (acceptWord "FORMAT") then
    if ← acceptWord "NULL" then return [.text " FORMAT NULL"]
    else return [.text (" FORMAT " ++ (← ident).render)]
  else return []

/-- The clauses after the sort keys of a query. -/
def queryTail : Parse (List Piece) := do
  let bounds ← boundsRound g (← boundsRound g {})
  let by_ ← if ← permissive (acceptWord "BY") then
      pure (.text " BY " :: commaPieces (← g.exprs))
    else pure []
  let settings := match ← settings with
    | some text => [Piece.text (" " ++ text)]
    | none => []
  let fetch ← fetch
  let locks ← forClauses
  let format ← formatClause
  let limit := match bounds.limit with
    | some e => [.text " LIMIT ", .expr e]
    | none => []
  return limit ++ bounds.offset ++ by_ ++ settings ++ fetch ++ locks ++ format

/-- A query with its common table expressions. A write may stand in the place of the body. -/
def queryRule : Parse Query := do
  let (recursive, ctes) ← if ← acceptWord "WITH" then
      let recursive ← acceptWord "RECURSIVE"
      pure (recursive, ← commaSep (cte g))
    else pure (false, [])
  if ← acceptWord "INSERT" then
    let body := match ← insert g with
      | .inl i => SetExpr.insert i
      | .inr parts => .other parts
    return ⟨recursive, ctes, body, [], []⟩
  else if ← acceptWord "UPDATE" then return ⟨recursive, ctes, .update (← update g), [], []⟩
  else
    let body ← g.setExpr 0
    let (order, filling) ← if ← acceptWords ["ORDER", "BY"] then
        let keys ← orderKeys g
        pure (keys, ← interpolation g)
      else pure ([], [])
    return ⟨recursive, ctes, body, order, filling ++ (← queryTail g)⟩

end

end SqlFootprint.Sql.Parse
