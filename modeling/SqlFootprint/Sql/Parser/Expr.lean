import SqlFootprint.Sql.Parser.Call

/-!
# Reading expressions

Operands first, then operators by precedence: `exprRule` reads an operand and goes on as long as
the next operator binds tighter than the level that it was called at.
-/

namespace SqlFootprint.Sql

/-- The levels of precedence. -/
inductive Level where
  | or | and | not | is | like | between | comparison | pipe | ampersand | caret | xor | sum
  | product | atTimeZone | doubleColon | other
deriving DecidableEq, Repr

/-- How tight a level binds. -/
def Dialect.precedence : Dialect → Level → Nat
  | .postgres, level => match level with
    | .doubleColon => 140
    | .atTimeZone => 110
    | .caret => 100
    | .product => 90
    | .sum => 80
    | .xor => 75
    | .other | .ampersand | .pipe => 70
    | .between | .like => 60
    | .comparison => 50
    | .is => 40
    | .not => 30
    | .and => 20
    | .or => 10
  | .ansi, level => match level with
    | .doubleColon => 50
    | .atTimeZone => 41
    | .product => 40
    | .sum => 30
    | .xor => 24
    | .ampersand => 23
    | .caret => 22
    | .pipe => 21
    | .between | .comparison => 20
    | .like => 19
    | .is => 17
    | .other => 16
    | .not => 15
    | .and => 10
    | .or => 5

/-- The level of an operator symbol. -/
def symbolLevel? (spelling : String) : Option Level :=
  match spelling with
  | "=" | "<" | "<=" | "<>" | ">" | ">=" | "==" | "~" | "~*" | "!~" | "!~*" | "~~" | "~~*" | "!~~"
  | "!~~*" | "<=>" => some .comparison
  | "|" => some .pipe
  | "^" | "#" | "<<" | ">>" => some .caret
  | "&" => some .ampersand
  | "+" | "-" => some .sum
  | "*" | "/" | "//" | "%" | "||" => some .product
  | "::" | "!" | "[" | "&&" | "^@" => some .doubleColon
  | "->" | "->>" | "#>" | "#>>" | "@>" | "<@" | "#-" | "@?" | "@@" | "?" | "?&" | "?|" =>
    some .other
  | _ => none

/-- How tight an operator symbol binds what is on its left. -/
def Dialect.symbolPrecedence (d : Dialect) (spelling : String) : Nat :=
  let common := ((symbolLevel? spelling).map d.precedence).getD 0
  match d with
  | .ansi => common
  | .postgres =>
    if spelling == "[" then 130
    else if ["!", "&&", "^@", "||", "#", ">>", "<<"].contains spelling then d.precedence .other
    else common

namespace BinaryOp

/-- The operator that a symbol stands for between two operands. -/
def ofSymbol? (d : Dialect) (spelling : String) : Option BinaryOp :=
  match spelling with
  | "=" | "==" => some (.compare .eq)
  | "<>" => some (.compare .ne)
  | "<" => some (.compare .lt)
  | "<=" => some (.compare .le)
  | ">" => some (.compare .gt)
  | ">=" => some (.compare .ge)
  | "~" => some (.compare .matches)
  | "~*" => some (.compare .matchesFold)
  | "!~" => some (.compare .differs)
  | "!~*" => some (.compare .differsFold)
  | "#" => if d == .postgres then some (.other "#") else none
  | "::" | "!" | "[" => none
  | s => if (symbolLevel? s).isSome then some (.other s) else none

/-- The comparison that may stand before a quantifier. -/
def quantifiable? : BinaryOp → Option Comparison
  | compare .eq => some .eq
  | compare .ne => some .ne
  | compare .lt => some .lt
  | compare .le => some .le
  | compare .gt => some .gt
  | compare .ge => some .ge
  | _ => none

end BinaryOp

namespace Parse

def precedence (level : Level) : Parse Nat :=
  return (← dialect).precedence level

/-- The levels that some words have as operators. -/
def wordLevel? (keyword : String) : Option Level :=
  match keyword with
  | "OR" => some .or
  | "AND" => some .and
  | "XOR" => some .xor
  | "IS" => some .is
  | "IN" | "BETWEEN" | "OPERATOR" => some .between
  | "LIKE" | "ILIKE" | "RLIKE" | "REGEXP" | "SIMILAR" => some .like
  | "DIV" => some .product
  | _ => none

/-- How tight the next token binds what is on its left; 0 if it does not. -/
def nextPrecedence : Parse Nat := do
  let d ← dialect
  let level (l : Option Level) : Nat := (l.map d.precedence).getD 0
  match (← next).token with
  | .word w =>
    match w.keyword with
    | "COLLATE" => return if d == .postgres then 120 else 0
    | "AT" =>
      return if ← atWordsFrom 1 ["TIME", "ZONE"] then d.precedence .atTimeZone else 0
    | "NOT" =>
      let after := (← peek 1).token.keyword
      return if ["IN", "BETWEEN", "LIKE", "ILIKE", "RLIKE", "REGEXP", "SIMILAR"].contains after
        then level (wordLevel? after) else 0
    | keyword => return level (wordLevel? keyword)
  | .symbol s => return d.symbolPrecedence s
  | .customOperator _ => return d.precedence .other
  | _ => return 0

section

variable (g : Grammar)

/-! ## Operands that a word announces -/

def caseExpr : Parse Expr := do
  let operand ← if ← acceptWord "WHEN" then pure none else
      let e ← g.expr
      expectWord "WHEN"
      pure (some e)
  let branch : Parse (Expr × Expr) := do
    let condition ← g.expr
    expectWord "THEN"
    return (condition, ← g.expr)
  let first ← branch
  let more ← many (afterWord "WHEN" branch)
  let branches := first :: more
  let otherwise ← afterWord "ELSE" g.expr
  expectWord "END"
  return .cases operand (branches.map (·.1)) (branches.map (·.2)) otherwise

def castExpr (form : CastForm) : Parse Expr := do
  parens do
    let operand ← g.expr
    expectWord "AS"
    let target ← g.type
    let format ← if ← acceptWord "FORMAT" then
        let pattern ← value
        let zone ← if ← acceptWords ["AT", "TIME", "ZONE"] then
            pure (" AT TIME ZONE " ++ (← value))
          else pure ""
        pure (" FORMAT " ++ pattern ++ zone)
      else pure ""
    return .cast form operand target format

def convertExpr (function : String) : Parse Expr := do
  parens do
    let operand ← g.expr
    if ← acceptWord "USING" then
      let charset ← objectName
      return .template [.text (function ++ "("), .expr operand,
        .text (" USING " ++ charset.render ++ ")")]
    expectSymbol ","
    let target ← g.type
    let charset ← if ← acceptWords ["CHARACTER", "SET"] then
        pure (" CHARACTER SET " ++ (← objectName).render)
      else pure ""
    return .template [.text (function ++ "("), .expr operand,
      .text (", " ++ target.render ++ charset ++ ")")]

def existsExpr (negated : Bool) : Parse Expr :=
  return .existsQuery negated (← parens g.query)

def extractExpr : Parse Expr := do
  parens do
    let field ← dateField
    let link ←
      if ← acceptWord "FROM" then pure " FROM "
      else if (← acceptSymbol ",") && (← dialect) == .ansi then pure ", "
      else throw .noExtractSource
    let operand ← g.expr
    return .template [.text ("EXTRACT(" ++ field ++ link), .expr operand, .text ")"]

/-- `CEIL` and `FLOOR`. -/
def roundExpr (function : String) : Parse Expr := do
  parens do
    let operand ← g.expr
    let unit ←
      if ← acceptWord "TO" then pure (" TO " ++ (← dateField))
      else if ← acceptSymbol "," then
        let t ← next
        let scale ← value
        match t.token with
        | .number .. => pure (", " ++ scale)
        | _ => throw .scaleNotNumber
      else pure ""
    return .template [.text (function ++ "("), .expr operand, .text (unit ++ ")")]

/-- `POSITION(a IN b)`, or a call of a function of that name. -/
def positionExpr (name : Ident) : Parse Expr := do
  let standard ← attempt <| parens do
    let what ← g.exprAbove (← precedence .between)
    expectWord "IN"
    let within ← g.expr
    return .template [.text "POSITION(", .expr what, .text " IN ", .expr within, .text ")"]
  match standard with
  | some e => return e
  | none => call g [name]

def substringExpr : Parse Expr := do
  parens do
    let operand ← g.expr
    let commas ← acceptSymbol ","
    let start ← if commas then some <$> g.expr else afterWord "FROM" g.expr
    let length ← if (← acceptWord "FOR") then some <$> g.expr
      else if ← acceptSymbol "," then some <$> g.expr
      else pure none
    let part (word : String) : Option Expr → List Piece
      | none => []
      | some e => [.text (if commas then ", " else " " ++ word ++ " "), .expr e]
    return .template (.text "SUBSTRING(" :: .expr operand :: part "FROM" start ++
      part "FOR" length ++ [.text ")"])

def overlayExpr : Parse Expr := do
  parens do
    let operand ← g.expr
    expectWord "PLACING"
    let what ← g.expr
    expectWord "FROM"
    let start ← g.expr
    let length ← match ← afterWord "FOR" g.expr with
      | some e => pure [.text " FOR ", .expr e]
      | none => pure []
    return .template (.text "OVERLAY(" :: .expr operand :: .text " PLACING " :: .expr what ::
      .text " FROM " :: .expr start :: length ++ [.text ")"])

def trimExpr : Parse Expr := do
  parens do
    let side := match ← acceptOneOf ["BOTH", "LEADING", "TRAILING"] with
      | some word => word ++ " "
      | none => ""
    let first ← g.expr
    if ← acceptWord "FROM" then return .trim side (some first) (← g.expr) []
    else if (← acceptSymbol ",") && (← dialect) == .ansi then
      return .trim "" none first (← g.exprs)
    else return .trim side none first []

def notExpr : Parse Expr := do
  if ← acceptWord "EXISTS" then existsExpr g true
  else return .unary .not (← g.exprAbove (← precedence .not))

/-- Elements in brackets, from after the opening one. -/
def arrayExpr (word : String) : Parse Expr := do
  let elements ← commaSepBefore "]" g.expr
  expectSymbol "]"
  return .template (.text (word ++ "[") :: commaPieces elements ++ [.text "]"])

/-- A search in the text of columns, from after the word `MATCH`. -/
def matchExpr : Parse Expr := do
  let columns ← identList false false
  expectWord "AGAINST"
  parens do
    let text ← value
    let mode ←
      if ← acceptWords ["IN", "NATURAL", "LANGUAGE", "MODE"] then
        if ← acceptWords ["WITH", "QUERY", "EXPANSION"] then
          pure " IN NATURAL LANGUAGE MODE WITH QUERY EXPANSION"
        else pure " IN NATURAL LANGUAGE MODE"
      else if ← acceptWords ["IN", "BOOLEAN", "MODE"] then pure " IN BOOLEAN MODE"
      else if ← acceptWords ["WITH", "QUERY", "EXPANSION"] then pure " WITH QUERY EXPANSION"
      else pure ""
    return .raw [.text ("MATCH (" ++ commaList (columns.map Ident.render) ++ ") AGAINST (" ++ text ++
      mode ++ ")")]

/-- A value of a structured type, from after the word `STRUCT`. -/
def structExpr (start : Located) : Parse Expr := do
  let (members, closed) ← structMembers g start
  if closed then throw (.unmatchedBracket "in STRUCT literal" (← next))
  let field : Parse Expr := do
    let e ← g.expr
    let word ← next
    if ← acceptWord "AS" then
      unless members.isEmpty do throw (.typedFieldAlias word)
      let name ← ident
      return .template [.expr e, .text (" AS " ++ name.render)]
    else return e
  let fields ← parens (commaSep field)
  return .template (.text ((structType members).render ++ "(") :: commaPieces fields ++ [.text ")"])

/-- A key with its value. -/
def entry (key : Parse (List Piece)) : Parse (List Piece) := do
  let k ← key
  expectSymbol ":"
  return k ++ [.text ": ", .expr (← g.expr)]

/-- A map, from after its first word. It may be empty, and any expression is a key. -/
def mapExpr : Parse Expr := do
  expectSymbol "\x7b"
  let entries ← commaSepBefore "\x7d" (entry g (return [.expr (← g.expr)]))
  expectSymbol "\x7d"
  return .raw (.text "MAP \x7b" :: (entries.intersperse [.text ", "]).flatten ++ [.text "\x7d"])

/-- A dictionary. It has entries, and names are its keys. -/
def dictionaryExpr : Parse Expr := do
  expectSymbol "\x7b"
  let entries ← commaSep (entry g (return [.text (← ident).render]))
  expectSymbol "\x7d"
  return .raw (.text "\x7b" :: (entries.intersperse [.text ", "]).flatten ++ [.text "\x7d"])

/-- The expression that a word announces, if it announces one. -/
def wordOperand (w : Word) (t : Located) : Parse (Option Expr) := do
  let permissive := (← dialect) == .ansi
  match w.keyword with
  | "TRUE" => return some (.constant "true")
  | "FALSE" => return some (.constant "false")
  | "NULL" => return some (.constant "NULL")
  | "CURRENT_CATALOG" | "CURRENT_USER" | "SESSION_USER" | "USER" =>
    return some (.call [w.toIdent] .none .none [] none "" .none)
  | "CURRENT_TIMESTAMP" | "CURRENT_TIME" | "CURRENT_DATE" | "LOCALTIME" | "LOCALTIMESTAMP" =>
    return some (← timeCall g w.toIdent)
  | "CASE" => return some (← caseExpr g)
  | "CONVERT" => return some (← convertExpr g "CONVERT")
  | "TRY_CONVERT" => if permissive then return some (← convertExpr g "TRY_CONVERT") else return none
  | "CAST" => return some (← castExpr g .cast)
  | "TRY_CAST" => return some (← castExpr g .tryCast)
  | "SAFE_CAST" => return some (← castExpr g .safeCast)
  | "EXISTS" => return some (← existsExpr g false)
  | "EXTRACT" => return some (← extractExpr g)
  | "CEIL" => return some (← roundExpr g "CEIL")
  | "FLOOR" => return some (← roundExpr g "FLOOR")
  | "POSITION" =>
    if ← atSymbol "(" then return some (← positionExpr g w.toIdent) else return none
  | "SUBSTRING" => return some (← substringExpr g)
  | "OVERLAY" => return some (← overlayExpr g)
  | "TRIM" => return some (← trimExpr g)
  | "INTERVAL" => return some (.template (← interval g))
  | "ARRAY" =>
    if ← acceptSymbol "[" then return some (← arrayExpr g "ARRAY")
    else if ← atSymbol "(" then
      return some (.call [w.toIdent] .none (.query (← parens g.query)) [] none "" .none)
    else return none
  | "NOT" => return some (← notExpr g)
  | "MATCH" => if permissive then return some (← matchExpr) else return none
  | "STRUCT" => if permissive then return some (← structExpr g t) else return none
  | "PRIOR" =>
    if (← read).linking then
      let operand ← g.exprAbove (← precedence .sum)
      return some (.template [.text "PRIOR ", .expr operand])
    else return none
  | "MAP" =>
    if permissive && (← atSymbol "\x7b") then
      return some (← mapExpr g)
    else return none
  | _ => return none

/-- A column, a call, or a string with its character set, from after its first word. -/
def nameOperand (w : Word) : Parse Expr := do
  match (← next).token with
  | .symbol "(" | .symbol "." =>
    let (path, star) ← extend ([w.toIdent], false) fun (path, star) ↦ do
      if star then return none
      else if ← acceptSymbol "." then
        let t ← take
        match t.token with
        | .word w => return some (w.toIdent :: path, false)
        | .symbol "*" =>
          if (← dialect) == .postgres then return some (path, true)
          else failAt "an identifier after '.'" t
        | .string .plain text => return some (⟨text, some '\''⟩ :: path, false)
        | _ => failAt "an identifier or a '*' after '.'" t
      else return none
    if star then return .raw [.text (ObjectName.render path.reverse ++ ".*")]
    else if ← atSymbol "(" then call g path.reverse
    else return .column path.tail.reverse (path.headD w.toIdent)
  | .string form text =>
    if (form == .plain || form == .hex) && w.text.startsWith "_" then
      let _ ← take
      return .constant (w.text ++ " " ++ form.literal text)
    else return .column [] w.toIdent
  | _ => return .column [] w.toIdent

/-! ## Operands -/

/-- A string after the name of its type. -/
def typedString : Parse Expr := do
  match ← g.type with
  | .keyword "INTERVAL" => return .template (← interval g)
  | .custom .. => failNext "a type with a name of its own"
  | type => return .constant (type.render ++ " " ++ quoteString (← stringText))

/-- Whether a query without parentheses comes next. -/
def atQuery : Parse Bool :=
  return ["SELECT", "WITH"].contains (← next).token.keyword

/-- What stands in parentheses, and the member that may be taken of it. -/
def parenOperand : Parse Expr := do
  let inner ←
    if ← atQuery then pure (.subquery (← g.query))
    else match ← g.exprs with
      | [e] => pure (.nested e)
      | es => pure (.template (.text "(" :: commaPieces es ++ [.text ")"]))
  expectSymbol ")"
  if ← acceptSymbol "." then
    let t ← take
    match t.token with
    | .word w => return .template [.expr inner, .text ("." ++ w.toIdent.render)]
    | _ => throw (.noMemberName t)
  else return inner

/-- A call in braces, from after the opening one. -/
def bracedCall : Parse Expr := do
  expectWord "FN"
  return .braced (← call g (← objectName))

/-- What a brace opens: a call, or a dictionary where the dialect has them. -/
def braceOperand (brace : Located) : Parse Expr := do
  match ← attempt (bracedCall g) with
  | some e =>
    expectSymbol "\x7d"
    return e
  | none =>
    if (← dialect) == .ansi then
      back
      dictionaryExpr g
    else failAt "an expression" brace

/-- The operand that a symbol announces. -/
def symbolOperand (t : Located) (spelling : String) : Parse Expr := do
  let permissive := (← dialect) == .ansi
  match spelling with
  | "[" => arrayExpr g ""
  | "-" | "+" => return .unary (.before spelling) (← g.exprAbove (← precedence .product))
  | "(" => parenOperand g
  | "\x7b" => braceOperand g t
  | ":" =>
    back
    return .constant (← value)
  | "@" =>
    if permissive then
      back
      return .constant (← value)
    else return .unary (.before spelling) (← g.exprAbove (← precedence .sum))
  | "!!" | "|/" | "||/" | "~" =>
    if permissive then failAt "an expression" t
    else return .unary (.before spelling) (← g.exprAbove (← precedence .sum))
  | _ => failAt "an expression" t

/-- The words that are never a name where an expression is wanted. -/
def reservedOperands : List String :=
  ["EXISTS", "INTERVAL", "STRUCT", "TRIM"]

/-- An operand, and whether nothing may be added to it: a word that was read as a mere name after
all is taken as it is. -/
def bareOperand : Parse (Expr × Bool) := do
  if let some e ← attempt (typedString g) then return (e, true)
  let t ← take
  match t.token with
  | .word w =>
    match ← outcome (wordOperand g w t) with
    | .ok (some e) => return (e, false)
    | .ok none => return (← nameOperand g w, false)
    | .error fault =>
      if reservedOperands.contains w.keyword then throw fault
      match ← outcome (nameOperand g w) with
      | .ok e => return (e, true)
      | .error _ => throw fault
  | .number .. | .string .. | .placeholder _ =>
    back
    return (.constant (← value), false)
  | .symbol s => return (← symbolOperand g t s, false)
  | _ => failAt "an expression" t

def operandRule : Parse Expr := do
  let (e, complete) ← bareOperand g
  if complete then return e
  else if ← acceptWord "COLLATE" then
    let collation ← objectName
    return .template [.expr e, .text (" COLLATE " ++ collation.render)]
  else return e

/-! ## Operators -/

def inExpr (operand : Expr) (negated : Bool) : Parse Expr := do
  if ← acceptWord "UNNEST" then
    let array ← parens g.expr
    return .template [.expr operand, .text (" " ++ negation negated ++ "IN UNNEST("), .expr array,
      .text ")"]
  parens do
    if ← atQuery then return .inQuery operand negated (← g.query)
    else return .inList operand negated (← g.exprs)

def betweenExpr (operand : Expr) (negated : Bool) : Parse Expr := do
  let level ← precedence .between
  let low ← g.exprAbove level
  expectWord "AND"
  return .between operand negated low (← g.exprAbove level)

def patternExpr (kind : PatternKind) (operand : Expr) (negated : Bool) : Parse Expr := do
  let any ← match kind with
    | .like | .ilike => acceptWord "ANY"
    | _ => pure false
  let against ← g.exprAbove (← precedence .like)
  let escape ← match kind with
    | .rlike | .regexp => pure none
    | _ => afterWord "ESCAPE" stringText
  return .pattern kind operand negated any against escape

/-- The tests that may be negated by a word before them. -/
def negatableExpr (operand : Expr) (negated : Bool) : Parse Expr := do
  if ← acceptWord "REGEXP" then
    let _ ← acceptWord "RLIKE"
    patternExpr g .regexp operand negated
  else if ← acceptWord "RLIKE" then patternExpr g .rlike operand negated
  else if ← acceptWord "IN" then inExpr g operand negated
  else if ← acceptWord "BETWEEN" then betweenExpr g operand negated
  else if ← acceptWord "LIKE" then patternExpr g .like operand negated
  else if ← acceptWord "ILIKE" then patternExpr g .ilike operand negated
  else if ← acceptWords ["SIMILAR", "TO"] then patternExpr g .similar operand negated
  else failNext "IN or BETWEEN after NOT"

/-- What follows `IS`. -/
def isExpr (operand : Expr) : Parse Expr := do
  let negated ← atWord "NOT"
  let after := if negated then 1 else 0
  let skip : Parse Unit := modify (· + (after + 1))
  let word := (← peek after).token.keyword
  match word with
  | "NULL" =>
    skip
    return .nullTest operand negated
  | "TRUE" | "FALSE" | "UNKNOWN" =>
    skip
    return .template [.expr operand, .text (" IS " ++ negation negated ++ word)]
  | "DISTINCT" =>
    if (← peek (after + 1)).token.keyword == "FROM" then
      skip
      let _ ← take
      return .distinctTest operand negated (← g.expr)
    else failNext "[NOT] NULL or TRUE|FALSE or [NOT] DISTINCT FROM after IS"
  | _ => failNext "[NOT] NULL or TRUE|FALSE or [NOT] DISTINCT FROM after IS"

/-- An index or a slice, from after its opening bracket. -/
def subscriptExpr (operand : Expr) : Parse Expr := do
  let lower ← if ← acceptSymbol ":" then pure none else some <$> g.expr
  let piece : Option Expr → List Piece
    | none => []
    | some e => [.expr e]
  let result (parts : List Piece) : Expr :=
    .template (.expr operand :: .text "[" :: parts ++ [.text "]"])
  if ← acceptSymbol "]" then
    return result (if lower.isSome then piece lower else [.text ":"])
  if lower.isSome then expectSymbol ":"
  if ← acceptSymbol "]" then return result (piece lower ++ [.text ":"])
  let upper ← g.expr
  let slice := piece lower ++ [.text ":", .expr upper]
  if ← acceptSymbol "]" then return result slice
  expectSymbol ":"
  if ← acceptSymbol "]" then return result slice
  let stride ← g.expr
  expectSymbol "]"
  return result (slice ++ [.text ":", .expr stride])

/-- The operator that a token stands for between two operands. -/
def binaryOp? (t : Located) : Parse (Option BinaryOp) := do
  match t.token with
  | .symbol s => return BinaryOp.ofSymbol? (← dialect) s
  | .customOperator s => return some (.other s)
  | .word w =>
    match w.keyword with
    | "AND" => return some .and
    | "OR" => return some .or
    | "XOR" => return some (.other "XOR")
    | "OPERATOR" =>
      let parts ← parens (sepBy "." (return (← take).token.render))
      return some (.other ("OPERATOR(" ++ ".".intercalate parts ++ ")"))
    | _ => return none
  | _ => return none

/-- The right side of an operator, which a quantifier may announce. -/
def binaryExpr (left : Expr) (op : BinaryOp) (t : Located) (level : Nat) : Parse Expr := do
  match ← acceptOneOf ["ANY", "ALL", "SOME"] with
  | none => return .binary left op (← g.exprAbove level)
  | some word =>
    expectSymbol "("
    let right ←
      if ← atQuery then
        back
        g.exprAbove level
      else
        let e ← g.exprAbove level
        expectSymbol ")"
        pure e
    let quantifier : Quantifier :=
      if word == "ALL" then .all else if word == "SOME" then .some else .any
    match op.quantifiable? with
    | some c => return .quantified left c quantifier right
    | none => throw (.notQuantifiable op.render t)

/-- An operator that binds at a level, and what is on its right. -/
def infixExpr (left : Expr) (level : Nat) : Parse Expr := do
  let t ← take
  if let some op ← binaryOp? t then return ← binaryExpr g left op t level
  match t.token with
  | .word w =>
    match w.keyword with
    | "IS" => isExpr g left
    | "AT" =>
      expectWords ["TIME", "ZONE"]
      let zone ← g.exprAbove level
      return .template [.expr left, .text " AT TIME ZONE ", .expr zone]
    | "NOT" => negatableExpr g left true
    | "IN" | "BETWEEN" | "LIKE" | "ILIKE" | "SIMILAR" | "REGEXP" | "RLIKE" =>
      back
      negatableExpr g left false
    | _ => throw (.noInfixRule t)
  | .symbol "::" => return .cast .doubleColon left (← g.type) ""
  | .symbol "!" =>
    if (← dialect) == .postgres then return .unary (.after "!") left else throw (.noInfixRule t)
  | .symbol "[" => subscriptExpr g left
  | _ => throw (.noInfixRule t)

/-- An expression up to an operator that binds no tighter than a level. -/
def exprRule (level : Nat) : Parse Expr := do
  let first ← g.operand
  extend first fun left ↦ do
    let found ← nextPrecedence
    if found ≤ level then return none else return some (← infixExpr g left found)

end

end Parse

end SqlFootprint.Sql
