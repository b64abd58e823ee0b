import SqlFootprint.Sql.Parser.RowPattern

/-!
# Reading relations

What stands in a `FROM` clause: tables, derived tables, functions, and joins of them.
-/

namespace SqlFootprint.Sql

/-- A relation with an alias that was written outside the parentheses around it. It is an error if
the relation has one already. -/
def TableFactor.withAlias (outer : TableAlias) : TableFactor → Except TableAlias TableFactor
  | .table name arguments none tail => .ok (.table name arguments (some outer) tail)
  | .derived lateral query none => .ok (.derived lateral query (some outer))
  | .nestedJoin joined none => .ok (.nestedJoin joined (some outer))
  | .special parts none tail => .ok (.special parts (some outer) tail)
  | .table _ _ (some inner) _ | .derived _ _ (some inner) | .nestedJoin _ (some inner)
  | .special _ (some inner) _ => .error inner

namespace Parse

section

variable (g : Grammar)

/-- Rows of values, from after the word `VALUES`. -/
def valueRows : Parse (List Piece) := do
  let rows ← commaSep do
    let explicit ← acceptWord "ROW"
    return (explicit, ← parens g.exprs)
  let open_ := if rows.any (·.1) then "ROW(" else "("
  let row (r : Bool × List Expr) : List Piece :=
    .text open_ :: commaPieces r.2 ++ [.text ")"]
  return .text "VALUES " :: ((rows.map row).intersperse [.text ", "]).flatten

/-- A query that is nothing but a body. -/
def bodyQuery (body : SetExpr) : Query :=
  ⟨false, [], body, [], []⟩

/-- Settings of a query. -/
def settings : Parse (Option String) := do
  if ← permissive (acceptWord "SETTINGS") then
    let items ← commaSep do
      let key ← ident
      expectSymbol "="
      return key.render ++ " = " ++ (← value)
    return some ("SETTINGS " ++ commaList items)
  else return none

/-! ## Functions in the place of tables -/

def argPieces (args : List Arg) : List Piece :=
  let one : Arg → List Piece
    | .value e => [.expr e]
    | .wildcard path => [.text (ObjectName.render (path ++ [⟨"*", none⟩]))]
    | .named name operator (.value e) => [.text (name.render ++ " " ++ operator ++ " "), .expr e]
    | .keyed key operator (.value e) => [.expr key, .text (" " ++ operator ++ " "), .expr e]
    | .named name operator _ => [.text (name.render ++ " " ++ operator ++ " *")]
    | .keyed key operator _ => [.expr key, .text (" " ++ operator ++ " *")]
  ((args.map one).intersperse [.text ", "]).flatten

/-- Arguments of a table function, from after the opening parenthesis. -/
def tableArguments : Parse (List Piece) := do
  if ← acceptSymbol ")" then return [.text "()"]
  let step : Parse (Arg ⊕ String) := do
    match ← settings with
    | some text => return .inr text
    | none => return .inl (← argument g)
  let first ← step
  let rest ← many do
    if ← acceptSymbol "," then return some (← step) else return none
  expectSymbol ")"
  let one : Arg ⊕ String → List Piece
    | .inl arg => argPieces [arg]
    | .inr text => [.text text]
  return .text "(" :: (((first :: rest).map one).intersperse [.text ", "]).flatten ++ [.text ")"]

/-- A function after `LATERAL`. -/
def lateralFunction : Parse TableFactor := do
  let name ← objectName
  expectSymbol "("
  let args ← if ← acceptSymbol ")" then pure [] else
      let args ← commaSep (argument g)
      expectSymbol ")"
      pure args
  return .special (.text ("LATERAL " ++ name.render ++ "(") :: argPieces args ++ [.text ")"])
    (← tableAlias g) []

/-- `UNNEST`, from after the word. A `WITH` that no `OFFSET` follows is taken all the same. -/
def unnest : Parse TableFactor := do
  let arrays ← parens g.exprs
  let ordinality := if ← acceptWords ["WITH", "ORDINALITY"] then " WITH ORDINALITY" else ""
  let aliasName ← tableAlias g
  let offset ← if ← (if ← acceptWord "WITH" then acceptWord "OFFSET" else pure false) then
      match ← optionalAlias reservedColumnAliases with
      | some name => pure [.text (" WITH OFFSET AS " ++ name.render)]
      | none => pure [.text " WITH OFFSET"]
    else pure []
  return .special (.text "UNNEST(" :: commaPieces arrays ++ [.text (")" ++ ordinality)]) aliasName
    offset

/-! ## Relations made of JSON -/

/-- What a column of `JSON_TABLE` holds where its value is missing or fails. -/
def jsonFallback? : Parse (Option String) := do
  let fallback ←
    if ← acceptWord "NULL" then pure "NULL"
    else if ← acceptWord "ERROR" then pure "ERROR"
    else if ← acceptWord "DEFAULT" then pure ("DEFAULT " ++ (← value))
    else return none
  expectWord "ON"
  return some fallback

/-- A column of `JSON_TABLE`. The count bounds how deep columns are nested. -/
def jsonColumn : Nat → Parse String
  | 0 => throw .tooDeep
  | n + 1 => do
    if ← acceptWord "NESTED" then
      let _ ← acceptWord "PATH"
      let path ← value
      expectWord "COLUMNS"
      let columns ← parens (commaSep (jsonColumn n))
      return "NESTED PATH " ++ path ++ " COLUMNS (" ++ commaList columns ++ ")"
    let name ← ident
    if ← acceptWord "FOR" then
      expectWord "ORDINALITY"
      return name.render ++ " FOR ORDINALITY"
    let type ← g.type
    let exists_ := if ← acceptWord "EXISTS" then " EXISTS" else ""
    expectWord "PATH"
    let path ← value
    let (onEmpty, onError) ← extend ("", "") fun (onEmpty, onError) ↦ do
      match ← jsonFallback? with
      | none => return none
      | some fallback =>
        if ← acceptWord "EMPTY" then return some (" " ++ fallback ++ " ON EMPTY", onError)
        expectWord "ERROR"
        return some (onEmpty, " " ++ fallback ++ " ON ERROR")
    return name.render ++ " " ++ type.render ++ exists_ ++ " PATH " ++ path ++ onEmpty ++ onError

/-- `JSON_TABLE`, from after its opening parenthesis. -/
def jsonTable : Parse TableFactor := do
  let document ← g.expr
  expectSymbol ","
  let path ← value
  expectWord "COLUMNS"
  let columns ← parens (commaSep (jsonColumn g ((← read).tokens.size + 1)))
  expectSymbol ")"
  return .special [.text "JSON_TABLE(", .expr document,
    .text (", " ++ path ++ " COLUMNS(" ++ commaList columns ++ "))")] (← tableAlias g) []

/-- A column of `OPENJSON`. -/
def openJsonColumn : Parse String := do
  let name ← ident
  let type ← g.type
  let path ← match (← next).token with
    | .string .plain text =>
      let _ ← take
      pure (" " ++ quoteString text)
    | _ => pure ""
  let nested ← if ← acceptWord "AS" then
      expectWord "JSON"
      pure " AS JSON"
    else pure ""
  return name.render ++ " " ++ type.render ++ path ++ nested

/-- `OPENJSON`, from after its opening parenthesis. -/
def openJson : Parse TableFactor := do
  let document ← g.expr
  let path ← if ← acceptSymbol "," then pure (", " ++ (← value)) else pure ""
  expectSymbol ")"
  let columns ← match ← afterWord "WITH" (parens (commaSep (openJsonColumn g))) with
    | some columns => pure (" WITH (" ++ commaList columns ++ ")")
    | none => pure ""
  return .special [.text "OPENJSON(", .expr document, .text (path ++ ")" ++ columns)]
    (← tableAlias g) []

/-! ## Tables turned around -/

def aliasedExpr (expr : Parse Expr) : Parse (List Piece) := do
  let e ← expr
  return .expr e :: aliasPieces (← afterWord "AS" ident)

def pivot (table : TableFactor) : Parse TableFactor := do
  let parts ← parens do
    let aggregates ← commaSep <| aliasedExpr do
      match (← take).token with
      | .word w => call g [⟨w.text, none⟩]
      | _ => failNext "a function identifier"
    expectWord "FOR"
    let column ← objectName
    expectWord "IN"
    let values ← parens do
      if ← acceptWord "ANY" then
        if ← acceptWords ["ORDER", "BY"] then
          return .text "ANY ORDER BY " :: orderPieces (← orderKeys g)
        else return [.text "ANY"]
      else if ← atQuery then return [.query (← g.query)]
      else return ((← commaSep (aliasedExpr g.expr)).intersperse [.text ", "]).flatten
    let default ← if ← acceptWords ["DEFAULT", "ON", "NULL"] then
        pure [.text " DEFAULT ON NULL (", .expr (← parens g.expr), .text ")"]
      else pure []
    return (aggregates.intersperse [.text ", "]).flatten ++
      .text (" FOR " ++ column.render ++ " IN (") :: values ++ .text ")" :: default
  return .special (.table table :: .text " PIVOT(" :: parts ++ [.text ")"]) (← tableAlias g) []

def unpivot (table : TableFactor) : Parse TableFactor := do
  let text ← parens do
    let value ← ident
    expectWord "FOR"
    let name ← ident
    expectWord "IN"
    let columns ← identList false false
    return value.render ++ " FOR " ++ name.render ++ " IN (" ++
      commaList (columns.map Ident.render) ++ ")"
  return .special [.table table, .text (" UNPIVOT(" ++ text ++ ")")] (← tableAlias g) []

def turned (table : TableFactor) : Parse TableFactor :=
  extend table fun table ↦ do
    if ← acceptWord "PIVOT" then return some (← pivot g table)
    else if ← acceptWord "UNPIVOT" then return some (← unpivot g table)
    else return none

/-! ## One relation -/

/-- A query in parentheses, from after the opening one. -/
def derivedTable (lateral : Bool) : Parse TableFactor := do
  let query ← g.query
  expectSymbol ")"
  return .derived lateral query (← tableAlias g)

/-- A join in parentheses, from after the opening one. A lone relation is not one, except in the
permissive dialect, which then drops the parentheses. -/
def parenSource : Parse TableFactor := do
  let source ← g.source
  let joined := !source.joins.isEmpty || match source.relation with
    | .nestedJoin .. => true
    | _ => false
  if joined then
    expectSymbol ")"
    return .nestedJoin source (← tableAlias g)
  else if (← dialect) == .ansi then
    expectSymbol ")"
    match ← tableAlias g with
    | none => return source.relation
    | some outer =>
      match source.relation.withAlias outer with
      | .ok relation => return relation
      | .error inner => throw (.aliasedTwice inner.render)
  else failNext "joined table"

def namedTable : Parse TableFactor := do
  let name ← objectName
  let partitions ← if ← permissive (acceptWord "PARTITION") then
      let names ← parens (commaSep ident)
      pure [.text ("PARTITION (" ++ commaList (names.map Ident.render) ++ ")")]
    else pure []
  let arguments ← if ← acceptSymbol "(" then tableArguments g else pure []
  let ordinality ← if ← acceptWords ["WITH", "ORDINALITY"] then pure [.text " WITH ORDINALITY"]
    else pure []
  let aliasName ← tableAlias g
  let hints ← if (← atWord "WITH") && (← peek 1).token.isSymbol "(" then
      let _ ← take
      pure (.text " WITH (" :: commaPieces (← parens g.exprs) ++ [.text ")"])
    else pure []
  let table ← turned g (.table name (partitions ++ arguments ++ ordinality) aliasName hints)
  if ← permissive (acceptWord "MATCH_RECOGNIZE") then matchRecognize g table else return table

def factorRule : Parse TableFactor := do
  if ← acceptWord "LATERAL" then
    if ← acceptSymbol "(" then derivedTable g true else lateralFunction g
  else if ← acceptWord "TABLE" then
    let e ← parens g.expr
    return .special [.text "TABLE(", .expr e, .text ")"] (← tableAlias g) []
  else if ← acceptSymbol "(" then
    match ← attempt (derivedTable g false) with
    | some table => turned g table
    | none => parenSource g
  else if ← permissive (atCall "VALUES") then
    let _ ← take
    let rows ← valueRows g
    return .derived false (bodyQuery (.values rows)) (← tableAlias g)
  else if ← acceptWord "UNNEST" then unnest g
  else if ← acceptCall "JSON_TABLE" then jsonTable g
  else if ← acceptCall "OPENJSON" then openJson g
  else namedTable g

/-! ## Joins -/

def joinConstraint (natural : Bool) : Parse JoinConstraint := do
  if natural then return .natural
  else if ← acceptWord "ON" then return .on (← g.expr)
  else if ← acceptWord "USING" then return .usingColumns (← identList false false)
  else return .none

/-- The words of a join that may be natural and have a constraint. -/
def joinKind (natural : Bool) : Parse (Option (JoinConstraint → JoinOperator)) := do
  let keyword := (← next).token.keyword
  let special (words : String) : JoinConstraint → JoinOperator := .special words []
  match keyword with
  | "INNER" | "JOIN" =>
    let _ ← acceptWord "INNER"
    expectWord "JOIN"
    return some .inner
  | "LEFT" | "RIGHT" =>
    let _ ← take
    let outer : JoinConstraint → JoinOperator := if keyword == "LEFT" then .left else .right
    match ← acceptOneOf ["OUTER", "SEMI", "ANTI", "JOIN"] with
    | some "JOIN" => return some outer
    | some "OUTER" =>
      expectWord "JOIN"
      return some outer
    | some word =>
      expectWord "JOIN"
      return some (special (keyword ++ " " ++ word ++ " JOIN "))
    | none => throw (.noOuterJoinWord keyword)
  | "ANTI" | "SEMI" =>
    let _ ← take
    expectWord "JOIN"
    return some (special (keyword ++ " JOIN "))
  | "FULL" =>
    let _ ← take
    let _ ← acceptWord "OUTER"
    expectWord "JOIN"
    return some .full
  | "OUTER" => failNext "LEFT, RIGHT, or FULL"
  | _ => if natural then failNext "a join type after NATURAL" else return none

/-- A join, if one comes next. The word `GLOBAL` is taken even if none does. -/
def join? : Parse (Option Join) := do
  let global ← acceptWord "GLOBAL"
  if ← acceptWord "CROSS" then
    if ← acceptWord "JOIN" then return some ⟨global, ← g.factor, .cross⟩
    else if ← acceptWord "APPLY" then
      return some ⟨global, ← g.factor, .special "CROSS APPLY " [] .none⟩
    else failNext "JOIN or APPLY after CROSS"
  else if ← acceptWord "OUTER" then
    expectWord "APPLY"
    return some ⟨global, ← g.factor, .special "OUTER APPLY " [] .none⟩
  else if ← acceptWord "ASOF" then
    expectWord "JOIN"
    let relation ← g.factor
    expectWord "MATCH_CONDITION"
    let condition ← parens g.expr
    let constraint ← joinConstraint g false
    return some ⟨global, relation,
      .special "ASOF JOIN " [.text " MATCH_CONDITION (", .expr condition, .text ")"] constraint⟩
  else
    let natural ← acceptWord "NATURAL"
    match ← joinKind natural with
    | some kind =>
      let relation ← g.factor
      return some ⟨global, relation, kind (← joinConstraint g natural)⟩
    | none => return none

def sourceRule : Parse TableWithJoins := do
  let relation ← g.factor
  return ⟨relation, ← many (join? g)⟩

/-- The relations of a `FROM` clause. -/
def sources : Parse (List TableWithJoins) :=
  commaSep g.source

end

end Parse

end SqlFootprint.Sql
