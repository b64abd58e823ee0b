import SqlFootprint.Sql.Tree

/-!
# Printing

Every tree has one canonical text: keywords in capitals, one space between parts, a comma and a
space between items, names and literals as they were written. Parentheses are printed only where
the tree holds them.
-/

namespace SqlFootprint.Sql

def Comparison.render : Comparison → String
  | .eq => "="
  | .ne => "<>"
  | .lt => "<"
  | .le => "<="
  | .gt => ">"
  | .ge => ">="
  | .matches => "~"
  | .matchesFold => "~*"
  | .differs => "!~"
  | .differsFold => "!~*"

def BinaryOp.render : BinaryOp → String
  | .and => "AND"
  | .or => "OR"
  | .compare c => c.render
  | .other spelling => spelling

def CastForm.open : CastForm → String
  | .cast => "CAST("
  | .tryCast => "TRY_CAST("
  | .safeCast => "SAFE_CAST("
  | .doubleColon => ""

def Quantifier.render : Quantifier → String
  | .any => "ANY"
  | .some => "SOME"
  | .all => "ALL"

def PatternKind.render : PatternKind → String
  | .like => "LIKE"
  | .ilike => "ILIKE"
  | .similar => "SIMILAR TO"
  | .rlike => "RLIKE"
  | .regexp => "REGEXP"

def SetOp.render : SetOp → String
  | .union => "UNION"
  | .except => "EXCEPT"
  | .intersect => "INTERSECT"

/-- The word `NOT` and a space, where a test is negated. -/
def negation (negated : Bool) : String :=
  if negated then "NOT " else ""

def TableAlias.render (a : TableAlias) : String :=
  let column : Ident × Option DataType → String
    | (name, none) => name.render
    | (name, some type) => name.render ++ " " ++ type.render
  a.name.render ++
    if a.columns.isEmpty then "" else " (" ++ commaList (a.columns.map column) ++ ")"

def renderAlias : Option TableAlias → String
  | none => ""
  | some a => " AS " ++ a.render

def AssignTarget.render : AssignTarget → String
  | .column name => name.render
  | .tuple names => "(" ++ commaList (names.map ObjectName.render) ++ ")"

/-- A clause that is printed only if it has items. -/
def listClause (before : String) (items : List String) (after : String) : String :=
  if items.isEmpty then "" else before ++ commaList items ++ after

mutual

def Expr.render : Expr → String
  | .column path name => ObjectName.render (path ++ [name])
  | .constant text => text
  | .binary left op right => left.render ++ " " ++ op.render ++ " " ++ right.render
  | .unary .not operand => "NOT " ++ operand.render
  | .unary (.before spelling) operand => spelling ++ operand.render
  | .unary (.after spelling) operand => operand.render ++ spelling
  | .nested inner => "(" ++ inner.render ++ ")"
  | .cast .doubleColon operand target format =>
    operand.render ++ "::" ++ target.render ++ format
  | .cast form operand target format =>
    form.open ++ operand.render ++ " AS " ++ target.render ++ format ++ ")"
  | .nullTest operand negated => operand.render ++ " IS " ++ negation negated ++ "NULL"
  | .distinctTest left negated right =>
    left.render ++ " IS " ++ negation negated ++ "DISTINCT FROM " ++ right.render
  | .quantified left op quantifier (.subquery q) =>
    left.render ++ " " ++ op.render ++ " " ++ quantifier.render ++ "(" ++ q.render ++ ")"
  | .quantified left op quantifier right =>
    left.render ++ " " ++ op.render ++ " " ++ quantifier.render ++ "(" ++ right.render ++ ")"
  | .between operand negated low high =>
    operand.render ++ " " ++ negation negated ++ "BETWEEN " ++ low.render ++ " AND " ++ high.render
  | .inList operand negated items =>
    operand.render ++ " " ++ negation negated ++ "IN (" ++ commaList (renderExprs items) ++ ")"
  | .inQuery operand negated query =>
    operand.render ++ " " ++ negation negated ++ "IN (" ++ query.render ++ ")"
  | .pattern kind operand negated any against escape =>
    operand.render ++ " " ++ negation negated ++ kind.render ++ " " ++
      (if any then "ANY " else "") ++ against.render ++
      match escape with
      | none => ""
      | some text => " ESCAPE '" ++ text ++ "'"
  | .existsQuery negated query => negation negated ++ "EXISTS (" ++ query.render ++ ")"
  | .subquery query => "(" ++ query.render ++ ")"
  | .call name parameters arguments within filter nulls window =>
    name.render ++ parameters.render ++ arguments.render ++
      listClause " WITHIN GROUP (ORDER BY " (renderKeys within) ")" ++
      renderOption " FILTER (WHERE " filter ")" ++ nulls ++ window.render
  | .braced call => "\x7bfn " ++ call.render ++ "\x7d"
  | .cases operand conditions results otherwise =>
    "CASE" ++ renderOption " " operand "" ++
      renderBranches (renderExprs conditions) (renderExprs results) ++
      renderOption " ELSE " otherwise "" ++ " END"
  | .trim side what operand characters =>
    "TRIM(" ++ side ++ renderOption "" what " FROM " ++ operand.render ++
      listClause ", " (renderExprs characters) "" ++ ")"
  | .groupingSets parts => renderPieces parts
  | .template parts => renderPieces parts
  | .raw parts => renderPieces parts

def renderExprs : List Expr → List String
  | [] => []
  | e :: es => e.render :: renderExprs es

def renderOption (before : String) : Option Expr → (after : String) → String
  | none, _ => ""
  | some e, after => before ++ e.render ++ after

def Piece.render : Piece → String
  | .text s => s
  | .expr e => e.render
  | .query q => q.render
  | .table t => t.render

def renderPieces : List Piece → String
  | [] => ""
  | p :: ps => p.render ++ renderPieces ps

def Args.render : Args → String
  | .none => ""
  | .query q => "(" ++ q.render ++ ")"
  | .list treatment items clauses =>
    "(" ++ treatment ++ commaList (renderArgs items) ++ renderPieces clauses ++ ")"

def renderArgs : List Arg → List String
  | [] => []
  | a :: as => a.render :: renderArgs as

def Arg.render : Arg → String
  | .value e => e.render
  | .wildcard qualifier => ObjectName.render (qualifier ++ [⟨"*", none⟩])
  | .named name operator arg => name.render ++ " " ++ operator ++ " " ++ arg.render
  | .keyed key operator arg => key.render ++ " " ++ operator ++ " " ++ arg.render

def Window.render : Window → String
  | .none => ""
  | .named name => " OVER " ++ name.render
  | .spec base partition order frame =>
    " OVER (" ++ " ".intercalate (
      (base.map Ident.render).toList ++
      (if partition.isEmpty then [] else
        ["PARTITION BY " ++ commaList (renderExprs partition)]) ++
      (if order.isEmpty then [] else ["ORDER BY " ++ commaList (renderKeys order)]) ++
      if frame.isEmpty then [] else [renderPieces frame]) ++ ")"

def renderKeys : List OrderKey → List String
  | [] => []
  | k :: ks => k.render :: renderKeys ks

def OrderKey.render : OrderKey → String
  | .mk expr options => expr.render ++ renderPieces options

def renderBranches : List String → List String → String
  | c :: cs, r :: rs => " WHEN " ++ c ++ " THEN " ++ r ++ renderBranches cs rs
  | _, _ => ""

def Query.render : Query → String
  | ⟨recursive, ctes, body, order, tail⟩ =>
    (if ctes.isEmpty then "" else
      "WITH " ++ (if recursive then "RECURSIVE " else "") ++ commaList (renderCtes ctes) ++ " ") ++
      body.render ++ listClause " ORDER BY " (renderKeys order) "" ++ renderPieces tail

def renderCtes : List Cte → List String
  | [] => []
  | c :: cs => c.render :: renderCtes cs

def Cte.render : Cte → String
  | ⟨aliasName, mode, query, after⟩ =>
    aliasName.render ++ " AS " ++ mode ++ "(" ++ query.render ++ ")" ++ after

def SetExpr.render : SetExpr → String
  | .select s => s.render
  | .query q => "(" ++ q.render ++ ")"
  | .operation op quantifier left right =>
    left.render ++ " " ++ op.render ++ quantifier ++ " " ++ right.render
  | .values parts => renderPieces parts
  | .insert i => i.render
  | .update u => u.render
  | .other parts => renderPieces parts

def Select.render : Select → String
  | ⟨head, projection, into, sources, views, filter, grouping, layout, having, tail⟩ =>
    "SELECT" ++ renderPieces head ++ " " ++ commaList (renderItems projection) ++
      renderPieces into ++ listClause " FROM " (renderSources sources) "" ++ renderPieces views ++
      renderOption " WHERE " filter "" ++ grouping.render ++ renderPieces layout ++
      renderOption " HAVING " having "" ++ renderPieces tail

def Grouping.render : Grouping → String
  | .all modifiers => " GROUP BY ALL" ++ modifiers
  | .keys [] _ => ""
  | .keys exprs modifiers => " GROUP BY " ++ commaList (renderExprs exprs) ++ modifiers

def renderItems : List SelectItem → List String
  | [] => []
  | i :: is => i.render :: renderItems is

def SelectItem.render : SelectItem → String
  | .expr e => e.render
  | .aliased e aliasName => e.render ++ " AS " ++ aliasName.render
  | .wildcard options => "*" ++ renderPieces options
  | .qualifiedWildcard name options => name.render ++ ".*" ++ renderPieces options

def renderSources : List TableWithJoins → List String
  | [] => []
  | t :: ts => t.render :: renderSources ts

def TableWithJoins.render : TableWithJoins → String
  | ⟨relation, joins⟩ => relation.render ++ renderJoins joins

def renderJoins : List Join → String
  | [] => ""
  | j :: js => j.render ++ renderJoins js

def TableFactor.render : TableFactor → String
  | .table name arguments aliasName tail =>
    name.render ++ renderPieces arguments ++ renderAlias aliasName ++ renderPieces tail
  | .derived lateral query aliasName =>
    (if lateral then "LATERAL " else "") ++ "(" ++ query.render ++ ")" ++ renderAlias aliasName
  | .nestedJoin joined aliasName => "(" ++ joined.render ++ ")" ++ renderAlias aliasName
  | .special parts aliasName tail =>
    renderPieces parts ++ renderAlias aliasName ++ renderPieces tail

/-- A join with the space before it. -/
def Join.render : Join → String
  | ⟨global, relation, operator⟩ =>
    let space := if global then " GLOBAL " else " "
    match operator with
    | .inner c => space ++ c.start ++ "JOIN " ++ relation.render ++ c.finish
    | .left c => space ++ c.start ++ "LEFT JOIN " ++ relation.render ++ c.finish
    | .right c => space ++ c.start ++ "RIGHT JOIN " ++ relation.render ++ c.finish
    | .full c => space ++ c.start ++ "FULL JOIN " ++ relation.render ++ c.finish
    | .cross => space ++ "CROSS JOIN " ++ relation.render
    | .special words matching c =>
      space ++ c.start ++ words ++ relation.render ++ renderPieces matching ++ c.finish

/-- What a constraint puts before the join. -/
def JoinConstraint.start : JoinConstraint → String
  | .natural => "NATURAL "
  | .on _ | .usingColumns _ | .none => ""

/-- What a constraint puts after the relation. -/
def JoinConstraint.finish : JoinConstraint → String
  | .on e => " ON " ++ e.render
  | .usingColumns columns => " USING(" ++ commaList (columns.map Ident.render) ++ ")"
  | .natural | .none => ""

def Insert.render : Insert → String
  | ⟨words, table, aliasName, columns, partition, source, content, tail⟩ =>
    words ++ table.render ++ (match aliasName with
      | none => " "
      | some a => " AS " ++ a.render ++ " ") ++
      listClause "(" (columns.map Ident.render) ") " ++ renderPieces partition ++
      (match source with
        | none => renderPieces content
        | some q => q.render) ++ renderPieces tail

def Update.render : Update → String
  | ⟨words, table, assignments, sources, filter, tail⟩ =>
    words ++ table.render ++ listClause " SET " (renderAssignments assignments) "" ++
      listClause " FROM " (renderSources sources) "" ++ renderOption " WHERE " filter "" ++
      renderPieces tail

def renderAssignments : List Assignment → List String
  | [] => []
  | a :: as => a.render :: renderAssignments as

def Assignment.render : Assignment → String
  | .mk target value => target.render ++ " = " ++ value.render

end

def Delete.render (d : Delete) : String :=
  d.words ++ commaList (renderSources d.sources) ++
    listClause " USING " (renderSources d.others) "" ++ renderOption " WHERE " d.filter "" ++
    renderPieces d.tail

def ColumnOption.render : ColumnOption → String
  | .notNull => "NOT NULL"
  | .primaryKey tail => "PRIMARY KEY" ++ tail
  | .references parts | .other parts => renderPieces parts

def ColumnDef.render (c : ColumnDef) : String :=
  let option : Option Ident × ColumnOption → String
    | (none, o) => " " ++ o.render
    | (some name, o) => " CONSTRAINT " ++ name.render ++ " " ++ o.render
  c.name.render ++ " " ++ c.type.render ++
    (match c.collation with
      | none => ""
      | some name => " COLLATE " ++ name.render) ++
    "".intercalate (c.options.map option)

def TableConstraint.render : TableConstraint → String
  | .primaryKey before columns after =>
    before ++ "(" ++ commaList (columns.map Ident.render) ++ ")" ++ after
  | .other parts => renderPieces parts

def CreateTable.render (c : CreateTable) : String :=
  c.words ++ c.name.render ++ c.placement ++
    listClause " ("
      (c.columns.map ColumnDef.render ++ c.constraints.map TableConstraint.render) ")" ++
    renderPieces c.tail

def Statement.render : Statement → String
  | .query q => q.render
  | .insert i => i.render
  | .update u => u.render
  | .delete d => d.render
  | .createTable c => c.render
  | .other parts => renderPieces parts

end SqlFootprint.Sql
