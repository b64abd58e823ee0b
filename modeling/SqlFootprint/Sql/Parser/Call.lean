import SqlFootprint.Sql.Parser.Type
import SqlFootprint.Sql.Parser.Value

/-!
# Reading calls

Functions with their arguments, and the clauses that may follow: ordering within a group, a
filter, and a window.
-/

namespace SqlFootprint.Sql.Parse

section

variable (g : Grammar)

/-- An optional expression after a word, printed with the word. -/
def wordExpr (keyword : String) : Parse (List Piece) := do
  match ← afterWord keyword g.expr with
  | some e => return [.text (" " ++ keyword ++ " "), .expr e]
  | none => return []

/-- An interval, from after the word `INTERVAL`. -/
def interval : Parse (List Piece) := do
  let operand ← g.operand
  let unit ← if intervalUnits.contains (← next).token.keyword then some <$> dateField else pure none
  let (amount, last) ←
    if unit == some "SECOND" then
      match ← exactDigits with
      | .unspecified => pure ("", "")
      | .precision p => pure (s!" ({p})", "")
      | .scaled p s => pure (s!" ({p}, {s})", "")
    else
      let amount := match ← size with
        | some n => s!" ({n})"
        | none => ""
      if ← acceptWord "TO" then
        let field ← dateField
        let fraction := match ← (if field == "SECOND" then size else pure none) with
          | some n => s!" ({n})"
          | none => ""
        pure (amount, " TO " ++ field ++ fraction)
      else pure (amount, "")
  let unit := match unit with
    | some u => " " ++ u
    | none => ""
  return [.text "INTERVAL ", .expr operand, .text (unit ++ amount ++ last)]

/-! ## Sort keys -/

/-- Filling gaps between sorted rows. -/
def withFill : Parse (List Piece) := do
  if (← dialect) != .ansi then return []
  if ← acceptWords ["WITH", "FILL"] then
    return .text " WITH FILL" :: (← wordExpr g "FROM") ++ (← wordExpr g "TO") ++
      (← wordExpr g "STEP")
  else return []

def orderKey : Parse OrderKey := do
  let expr ← g.expr
  let direction ← acceptOneOf ["ASC", "DESC"]
  let nulls ←
    if ← acceptWords ["NULLS", "FIRST"] then pure [.text " NULLS FIRST"]
    else if ← acceptWords ["NULLS", "LAST"] then pure [.text " NULLS LAST"]
    else pure []
  let direction := match direction with
    | some word => [.text (" " ++ word)]
    | none => []
  return .mk expr (direction ++ nulls ++ (← withFill g))

def orderKeys : Parse (List OrderKey) :=
  commaSep (orderKey g)

/-- Sort keys in a position where they are only printed. -/
def orderPieces (keys : List OrderKey) : List Piece :=
  let one : OrderKey → List Piece
    | .mk expr options => .expr expr :: options
  (keys.map one).intersperse [.text ", "] |>.flatten

/-- Expressions in a position where they stand between commas. -/
def commaPieces (exprs : List Expr) : List Piece :=
  (exprs.map Piece.expr).intersperse (.text ", ")

/-! ## Windows -/

def frameBound : Parse (List Piece) := do
  if ← acceptWords ["CURRENT", "ROW"] then return [.text "CURRENT ROW"]
  let rows ←
    if ← acceptWord "UNBOUNDED" then pure [.text "UNBOUNDED"]
    else match (← next).token with
      | .string .plain _ => interval g
      | _ => pure [.expr (← g.expr)]
  match ← acceptOneOf ["PRECEDING", "FOLLOWING"] with
  | some word => return rows ++ [.text (" " ++ word)]
  | none => failNext "PRECEDING or FOLLOWING"

def windowFrame : Parse (List Piece) := do
  let t ← take
  let unit := t.token.keyword
  unless ["ROWS", "RANGE", "GROUPS"].contains unit do failAt "ROWS, RANGE, GROUPS" t
  if ← acceptWord "BETWEEN" then
    let low ← frameBound g
    expectWord "AND"
    let high ← frameBound g
    return .text (unit ++ " BETWEEN ") :: low ++ .text " AND " :: high
  else return .text (unit ++ " ") :: (← frameBound g)

/-- A window, from after its opening parenthesis. -/
def windowSpec : Parse Window := do
  let base ← match (← next).token with
    | .word w => if isKeyword w.keyword then pure none else attempt ident
    | _ => pure none
  let partition ← if ← acceptWords ["PARTITION", "BY"] then g.exprs else pure []
  let order ← if ← acceptWords ["ORDER", "BY"] then orderKeys g else pure []
  if ← acceptSymbol ")" then return .spec base partition order []
  else
    let frame ← windowFrame g
    expectSymbol ")"
    return .spec base partition order frame

/-- What follows `OVER`. -/
def window : Parse Window := do
  if ← acceptWord "OVER" then
    if ← acceptSymbol "(" then windowSpec g else return .named (← ident)
  else return .none

/-! ## Arguments -/

/-- The qualifier of a `*`, which is empty for a bare one. -/
def starPath : Parse (Option ObjectName) := do
  let start ← get
  let t ← take
  let first? : Option Ident := match t.token with
    | .word w => some w.toIdent
    | .string .plain text => some ⟨text, some '\''⟩
    | _ => none
  match t.token, first? with
  | .symbol "*", _ => return some []
  | _, some first =>
    let (path, star) ← extend ([first], false) fun (path, star) ↦ do
      if star then return none
      else if ← acceptSymbol "." then
        let t ← take
        match t.token with
        | .word w => return some (w.toIdent :: path, false)
        | .string .plain text => return some (⟨text, some '\''⟩ :: path, false)
        | .symbol "*" => return some (path, true)
        | _ => failAt "an identifier or a '*' after '.'" t
      else return none
    if star then return some path.reverse
    else
      set start
      return none
  | _, none =>
    set start
    return none

/-- An argument without a name. -/
def plainArg : Parse Arg := do
  match ← starPath with
  | some path => return .wildcard path
  | none => return .value (← g.expr)

/-- The operator between the name of an argument and its value. -/
def namingOperator : Parse String := do
  let t ← take
  let allowed := match ← dialect with
    | .postgres => ["=>", ":"]
    | .ansi => ["=>", ":="]
  match t.token with
  | .symbol s => if allowed.contains s then return s else failAt "argument operator" t
  | _ => failAt "argument operator" t

/-- An argument. It may be named, in one dialect by any expression. -/
def argument : Parse Arg := do
  let named ← match ← dialect with
    | .postgres => attempt do
        let key ← g.expr
        let operator ← namingOperator
        return .keyed key operator (← plainArg g)
    | .ansi => attempt do
        let name ← ident
        let operator ← namingOperator
        return .named name operator (← plainArg g)
  match named with
  | some arg => return arg
  | none => plainArg g

/-- How a call treats nulls. -/
def nullTreatment : Parse (Option String) := do
  match ← acceptOneOf ["RESPECT", "IGNORE"] with
  | some word =>
    expectWord "NULLS"
    return some (" " ++ word ++ " NULLS")
  | none => return none

/-- How a call treats equal arguments. -/
def treatment : Parse String := do
  let start ← next
  let all ← acceptWord "ALL"
  let distinct ← acceptWord "DISTINCT"
  match all, distinct with
  | true, true => throw (.bothTreatments start)
  | true, false => return "ALL "
  | false, true => return "DISTINCT "
  | false, false => return ""

/-- Whether nulls become members of a JSON value. -/
def jsonNulls : Parse (List Piece) := do
  if ← acceptWords ["ABSENT", "ON", "NULL"] then return [.text "ABSENT ON NULL"]
  else if ← acceptWords ["NULL", "ON", "NULL"] then return [.text "NULL ON NULL"]
  else return []

/-- A clause with a space before it, if there is one. -/
def spaced (parts : List Piece) : List Piece :=
  if parts.isEmpty then [] else .text " " :: parts

/-- What a joined list does when it grows too long. -/
def overflowClause : Parse (List Piece) := do
  if ← acceptWords ["ON", "OVERFLOW"] then
    if ← acceptWord "ERROR" then return [.text " ON OVERFLOW ERROR"]
    expectWord "TRUNCATE"
    let t ← next
    let filler ← match t.token with
      | .word w =>
        if w.keyword == "WITH" || w.keyword == "WITHOUT" then pure []
        else failNext "either filler, WITH, or WITHOUT in LISTAGG"
      | .string form _ =>
        if [.plain, .escaped, .unicode, .national, .hex].contains form then
          pure [.text " ", .expr (← g.expr)]
        else failNext "either filler, WITH, or WITHOUT in LISTAGG"
      | _ => failNext "either filler, WITH, or WITHOUT in LISTAGG"
    match ← acceptOneOf ["WITH", "WITHOUT"] with
    | some word =>
      expectWord "COUNT"
      return .text " ON OVERFLOW TRUNCATE" :: filler ++ [.text (" " ++ word ++ " COUNT")]
    | none => failNext "either WITH or WITHOUT in LISTAGG"
  else return []

/-- Arguments with their clauses, from after the opening parenthesis. The flag tells whether they
say how to treat nulls. -/
def argumentList : Parse (Args × Bool) := do
  let leading ← jsonNulls
  if ← acceptSymbol ")" then return (.list "" [] leading, false)
  let treatment ← treatment
  let items ← commaSep (argument g)
  let nulls ← if (← dialect) == .ansi then nullTreatment else pure none
  let order ← if ← acceptWords ["ORDER", "BY"] then
      pure (.text " ORDER BY " :: orderPieces (← orderKeys g))
    else pure []
  let limit ← wordExpr g "LIMIT"
  let bound ← if ← permissive (acceptWord "HAVING") then
      let kind ← expectOneOf ["MIN", "MAX"]
      pure [.text (" HAVING " ++ kind ++ " "), .expr (← g.expr)]
    else pure []
  let separator ← if ← permissive (acceptWord "SEPARATOR") then
      pure [.text (" SEPARATOR " ++ (← value))]
    else pure []
  let overflow ← overflowClause g
  let trailing ← jsonNulls
  expectSymbol ")"
  let nullPieces := match nulls with
    | some text => [.text text]
    | none => []
  return (.list treatment items (spaced leading ++ nullPieces ++ order ++ limit ++ bound ++
    separator ++ overflow ++ spaced trailing), nulls.isSome)

/-- What stands in the parentheses after `FILTER`. Only the words that fit are taken. -/
def filterClause : Parse (Option Expr) := do
  if (← dialect) != .postgres then return none
  if ← acceptWord "FILTER" then
    if ← acceptSymbol "(" then
      if ← acceptWord "WHERE" then
        let e ← g.expr
        expectSymbol ")"
        return some e
  return none

/-- A call, from before the parenthesis of its arguments. -/
def call (name : ObjectName) : Parse Expr := do
  expectSymbol "("
  let (args, saysNulls) ← argumentList g
  let (parameters, args, saysNulls) ←
    if ← permissive (acceptSymbol "(") then
      let (inner, saysNulls) ← argumentList g
      pure (args, inner, saysNulls)
    else pure (.none, args, saysNulls)
  let within ← if ← acceptWords ["WITHIN", "GROUP"] then
      parens do
        expectWords ["ORDER", "BY"]
        orderKeys g
    else pure []
  let filter ← filterClause g
  let nulls ← if saysNulls then pure none else nullTreatment
  return .call name parameters args within filter (nulls.getD "") (← window g)

/-- A call of a function of the current time, which needs no parentheses. -/
def timeCall (name : Ident) : Parse Expr := do
  let args ← if ← acceptSymbol "(" then (·.1) <$> argumentList g else pure .none
  return .call [name] .none args [] none "" .none

end

end SqlFootprint.Sql.Parse
