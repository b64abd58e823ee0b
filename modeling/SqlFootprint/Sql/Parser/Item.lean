import SqlFootprint.Sql.Parser.Expr

/-!
# Reading select items and aliases

The items of a select list, which also follow `RETURNING`, and the names given to relations.
-/

namespace SqlFootprint.Sql.Parse

/-- Words that are no alias unless `AS` stands before them. -/
def reservedAliases : List String :=
  ["WITH", "EXPLAIN", "ANALYZE", "SELECT", "WHERE", "GROUP", "SORT", "HAVING", "ORDER", "TOP",
    "LATERAL", "VIEW", "LIMIT", "OFFSET", "FETCH", "UNION", "EXCEPT", "INTERSECT", "CLUSTER",
    "DISTRIBUTE", "END"]

/-- Words that name no column without `AS`. -/
def reservedColumnAliases : List String :=
  reservedAliases ++ ["RETURNING", "FROM", "INTO"]

/-- Words that name no relation without `AS`. -/
def reservedTableAliases : List String :=
  reservedAliases ++ ["PIVOT", "UNPIVOT", "ON", "JOIN", "INNER", "CROSS", "FULL", "LEFT", "RIGHT",
    "NATURAL", "USING", "GLOBAL", "ANTI", "SEMI", "OUTER", "SET", "QUALIFY", "WINDOW", "FOR",
    "PARTITION", "PREWHERE", "SETTINGS", "FORMAT", "START", "CONNECT", "MATCH_RECOGNIZE"]

def aliasPieces : Option Ident → List Piece
  | none => []
  | some name => [.text (" AS " ++ name.render)]

section

variable (g : Grammar)

/-! ## Relations -/

/-- Names for the columns of a relation, with their types where these are given. -/
def aliasColumns : Parse (List (Ident × Option DataType)) := do
  if ← acceptSymbol "(" then
    let columns ← commaSep do
      let name ← ident
      return (name, ← attempt g.type)
    expectSymbol ")"
    return columns
  else return []

def tableAlias : Parse (Option TableAlias) := do
  match ← optionalAlias reservedTableAliases with
  | some name => return some ⟨name, ← aliasColumns g⟩
  | none => return none

/-! ## Select items -/

/-- One thing, or several in parentheses. -/
def oneOrMany (item : Parse String) : Parse String := do
  if ← acceptSymbol "(" then
    let items ← commaSep item
    expectSymbol ")"
    return "(" ++ commaList items ++ ")"
  else item

/-- Columns that a `*` replaces. -/
def starReplacements : Parse (List Piece) := do
  if ← acceptWord "REPLACE" then
    unless ← acceptSymbol "(" do failAt "( after REPLACE but" (← take)
    let items ← commaSep do
      let e ← g.expr
      let link := if ← acceptWord "AS" then " AS " else " "
      return [.expr e, .text (link ++ (← ident).render)]
    expectSymbol ")"
    return .text " REPLACE (" :: (items.intersperse [.text ", "]).flatten ++ [.text ")"]
  else return []

/-- What narrows a `*` down, in the dialect that allows it. -/
def starOptions : Parse (List Piece) := do
  if (← dialect) != .ansi then return []
  let pattern ← if ← acceptWord "ILIKE" then
      let t ← take
      match t.token with
      | .string .plain text => pure [.text (" ILIKE " ++ quoteString text)]
      | _ => failAt "ilike pattern" t
    else pure []
  let excluded ← if ← (if pattern.isEmpty then acceptWord "EXCLUDE" else pure false) then
      pure [.text (" EXCLUDE " ++ (← oneOrMany (Ident.render <$> ident)))]
    else pure []
  let excepted ← if ← acceptWord "EXCEPT" then
      let names ← if ← atSymbol "(" then identList false false else pure [← ident]
      pure [.text (" EXCEPT (" ++ commaList (names.map Ident.render) ++ ")")]
    else pure []
  let replaced ← starReplacements g
  let renamed ← if ← acceptWord "RENAME" then
      let one : Parse String := do
        let name ← ident
        expectWord "AS"
        return name.render ++ " AS " ++ (← ident).render
      pure [.text (" RENAME " ++ (← oneOrMany one))]
    else pure []
  return pattern ++ excluded ++ excepted ++ replaced ++ renamed

/-- An item of a select list. -/
def selectItem : Parse SelectItem := do
  match ← starPath with
  | some [] => return .wildcard (← starOptions g)
  | some path => return .qualifiedWildcard path (← starOptions g)
  | none =>
    let e ← g.expr
    if let .column [] ⟨name, none⟩ := e then
      if Text.lower name == "from" then throw (.noItemBefore name (← next))
    match ← optionalAlias reservedColumnAliases with
    | some aliasName => return .aliased e aliasName
    | none => return .expr e

/-- A select item in a position where it is only printed. -/
def itemPieces : SelectItem → List Piece
  | .expr e => [.expr e]
  | .aliased e aliasName => .expr e :: aliasPieces (some aliasName)
  | .wildcard options => .text "*" :: options
  | .qualifiedWildcard name options => .text (name.render ++ ".*") :: options

/-- The items that a writing statement returns. -/
def returning : Parse (List Piece) := do
  match ← afterWord "RETURNING" (commaSep (selectItem g)) with
  | some items =>
    return .text " RETURNING " :: ((items.map itemPieces).intersperse [.text ", "]).flatten
  | none => return []

end

end SqlFootprint.Sql.Parse
