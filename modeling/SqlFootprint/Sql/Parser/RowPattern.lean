import SqlFootprint.Sql.Parser.Item

/-!
# Reading row patterns

The clause `MATCH_RECOGNIZE`, which finds runs of rows by a pattern. Nothing in a pattern is an
expression, so it is read as the text in which it is printed.
-/

namespace SqlFootprint.Sql

namespace Parse

/-- The digits of a bound, which must come next. -/
def nextBound : Parse String := do
  let t ← take
  match t.token with
  | .number digits _ => return digits
  | _ => failAt "literal number" t

/-- What is behind the brace that opens a range of repetitions. Bounds are only read as numbers when
the range is complete, and blamed on the place of its first token. -/
def repetitionRange : Parse String := do
  let t ← take
  let bound (digits : String) : Parse String :=
    return toString (← wholeNumberOf 32 digits t)
  match t.token with
  | .symbol "," =>
    let high ← nextBound
    expectSymbol "\x7d"
    return "\x7b," ++ (← bound high) ++ "\x7d"
  | .number digits _ =>
    if ← acceptSymbol "," then
      if ← acceptSymbol "\x7d" then return "\x7b" ++ (← bound digits) ++ ",\x7d"
      let u ← take
      match u.token with
      | .number more _ =>
        expectSymbol "\x7d"
        return "\x7b" ++ (← bound digits) ++ "," ++ (← bound more) ++ "\x7d"
      | _ => failAt "\x7d or upper bound" u
    else
      expectSymbol "\x7d"
      return "\x7b" ++ (← bound digits) ++ "\x7d"
  | _ => failAt "quantifier range" t

/-- How often an item is repeated, if anything says so. -/
def quantifier? : Parse (Option String) := do
  let t ← next
  match t.token with
  | .symbol "*" | .symbol "+" | .placeholder "?" =>
    let _ ← take
    return some t.token.render
  | .symbol "\x7b" =>
    let _ ← take
    return some (← repetitionRange)
  | _ => return none

/-- A single item of a pattern. -/
def patternItem (pattern : Parse String) : Parse String := do
  let t ← take
  match t.token with
  | .symbol "^" => return "^"
  | .placeholder "$" => return "$"
  | .symbol "\x7b" =>
    expectSymbol "-"
    let name ← ident
    expectSymbol "-"
    expectSymbol "\x7d"
    return "\x7b- " ++ name.render ++ " -\x7d"
  | .symbol "(" =>
    let inner ← pattern
    expectSymbol ")"
    return "( " ++ inner ++ " )"
  | .word ⟨"PERMUTE", none, _⟩ =>
    let names ← parens (commaSep ident)
    return "PERMUTE(" ++ commaList (names.map Ident.render) ++ ")"
  | _ =>
    back
    return (← ident).render

/-- A pattern: alternatives, each a list of items with their quantifiers. The count bounds how
deep patterns are nested. -/
def rowPattern : Nat → Parse String
  | 0 => throw .tooDeep
  | n + 1 => do
    let item := do
      let base ← patternItem (rowPattern n)
      return base ++ String.join (← many quantifier?)
    let alternatives ← sepBy "|" do
      let first ← item
      let rest ← many do
        if (← atSymbol ")") || (← atSymbol "|") then return none else return some (← item)
      return " ".intercalate (first :: rest)
    return " | ".intercalate alternatives

/-- Which rows of a match are shown. -/
def shownRows : Parse String := do
  if ← acceptWords ["ONE", "ROW", "PER", "MATCH"] then return "ONE ROW PER MATCH "
  else if ← acceptWords ["ALL", "ROWS", "PER", "MATCH"] then
    if ← acceptWords ["SHOW", "EMPTY", "MATCHES"] then
      return "ALL ROWS PER MATCH SHOW EMPTY MATCHES "
    else if ← acceptWords ["OMIT", "EMPTY", "MATCHES"] then
      return "ALL ROWS PER MATCH OMIT EMPTY MATCHES "
    else if ← acceptWords ["WITH", "UNMATCHED", "ROWS"] then
      return "ALL ROWS PER MATCH WITH UNMATCHED ROWS "
    else return "ALL ROWS PER MATCH "
  else return ""

/-- Where the search goes on after a match. -/
def nextSearch : Parse String := do
  if ← acceptWords ["AFTER", "MATCH", "SKIP"] then
    if ← acceptWords ["PAST", "LAST", "ROW"] then return "AFTER MATCH SKIP PAST LAST ROW "
    else if ← acceptWords ["TO", "NEXT", "ROW"] then return "AFTER MATCH SKIP  TO NEXT ROW "
    else if ← acceptWords ["TO", "FIRST"] then
      return "AFTER MATCH SKIP TO FIRST " ++ (← ident).render ++ " "
    else if ← acceptWords ["TO", "LAST"] then
      return "AFTER MATCH SKIP TO LAST " ++ (← ident).render ++ " "
    else failNext "after match skip option"
  else return ""

/-- The pieces of a clause with a blank behind it, if there are any. -/
def clausePieces (words : String) (items : List (List Piece)) : List Piece :=
  if items.isEmpty then [] else
    .text words :: (items.intersperse [.text ", "]).flatten ++ [.text " "]

section

variable (g : Grammar)

def measure : Parse (List Piece) := do
  let e ← g.expr
  let _ ← acceptWord "AS"
  return [.expr e, .text (" AS " ++ (← ident).render)]

def patternVariable : Parse (List Piece) := do
  let name ← ident
  expectWord "AS"
  return [.text (name.render ++ " AS "), .expr (← g.expr)]

/-- The clause behind a table, from after its first word. -/
def matchRecognize (table : TableFactor) : Parse TableFactor := do
  let parts ← parens do
    let partition ← if ← acceptWords ["PARTITION", "BY"] then g.exprs else pure []
    let order ← if ← acceptWords ["ORDER", "BY"] then orderKeys g else pure []
    let measures ← if ← acceptWord "MEASURES" then commaSep (measure g) else pure []
    let rows ← shownRows
    let search ← nextSearch
    expectWord "PATTERN"
    let pattern ← parens (rowPattern ((← read).tokens.size + 1))
    expectWord "DEFINE"
    let symbols ← commaSep (patternVariable g)
    return clausePieces "PARTITION BY " (partition.map fun e ↦ [.expr e]) ++
      (if order.isEmpty then [] else .text "ORDER BY " :: orderPieces order ++ [.text " "]) ++
      clausePieces "MEASURES " measures ++
      .text (rows ++ search ++ "PATTERN (" ++ pattern ++ ") DEFINE ") ::
      (symbols.intersperse [.text ", "]).flatten
  let aliasName ← tableAlias g
  return .special (.table table :: .text " MATCH_RECOGNIZE(" :: parts ++ [.text ")"]) aliasName []

end

end Parse

end SqlFootprint.Sql
