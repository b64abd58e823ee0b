import SqlFootprint.Extraction.Condition

/-!
# Walking statements

Each part of a statement walks a scope: relations are registered, columns recorded in the role of
the clause that they stand in, joins and conditions collected, and nested queries given footprints
of their own. A chain of `AND` or `OR` costs no depth, every other expression one level.
-/

namespace SqlFootprint.Sql

/-- The kind of an edge of this sort of join, and what the join says on its columns. -/
def JoinOperator.standard? : JoinOperator → Option (JoinKind × JoinConstraint)
  | .inner c => some (.inner, c)
  | .left c => some (.left, c)
  | .right c => some (.right, c)
  | .full c => some (.full, c)
  | .cross => some (.cross, .none)
  | .special .. => none

/-- The table of one side of an equality. A bare column belongs to the relation on its side. -/
def sideTable? (s : Scope) (c : ColumnRef) (relation : Option String) : Option String :=
  match c.qualifier with
  | some qualifier => (s.ownTable? qualifier).map TableUse.name
  | none => relation

/-- The edge of an equality, if both of its sides belong to relations of this query. -/
def joinEdge? (s : Scope) (kind : JoinKind) (left right : Option String) (on : Expr) :
    Option JoinEdge :=
  match on.equiJoin? with
  | none => none
  | some (l, r) =>
    match sideTable? s l left, sideTable? s r right with
    | some lt, some rt => some ⟨kind, lt, rt, l.column, r.column, some on.render⟩
    | _, _ => none

/-- Why an equality makes no edge. -/
def noEdgeMessage (on : Expr) : String :=
  match on.equiJoin? with
  | none => "join predicate `" ++ on.render ++
      "` is not a single column equality; no join edge recorded"
  | some _ => "join predicate `" ++ on.render ++
      "` references a relation outside this FROM clause"

/-- Records an edge and its two columns. -/
def recordEdge (s : Scope) (e : JoinEdge) : Scope :=
  s.edit fun f ↦
    ((f.record ⟨e.leftColumn, some e.leftTable, none, .ofRole .joined, none, none⟩).record
      ⟨e.rightColumn, some e.rightTable, none, .ofRole .joined, none, none⟩).addJoin e

/-- The condition of a join: an edge, or else a notice and a walk through the condition. -/
def joinOn (kind : JoinKind) (left right : Option String) (on : Expr) (w : Walk) : Walk := fun r s ↦
  match joinEdge? s kind left right on with
  | some e => recordEdge s e
  | none => w r (s.unsupported (noEdgeMessage on))

def selectWildcard (table : Option String) (s : Scope) : Scope :=
  s.edit (·.record ⟨"*", table, none, .ofRole .selected, none, none⟩)

mutual

/-- Walks an expression in a mode. -/
def Expr.walk (m : Mode) : Expr → Walk
  | .binary left .and right => .all [left.walk m, right.walk m]
  | .binary left .or right => .all [left.walk m, right.walk m]
  | .column path name =>
    .deeper "expression" (.recordRef ⟨path.getLast?.map Ident.text, name.text⟩ m.role none)
  | .constant _ => .deeper "expression" .skip
  | .binary left (.compare c) right =>
    .deeper "expression" (.all [m.leaf (.binary left (.compare c) right), left.walk m.operand,
      right.walk m.operand])
  | .binary left (.other _) right =>
    .deeper "expression" (.all [left.walk m.operand, right.walk m.operand])
  | .unary .not operand =>
    .deeper "expression" (if m.conditions then (operand.walk m : Walk).negated else operand.walk m)
  | .unary _ operand => .deeper "expression" (operand.walk m)
  | .nested inner => .deeper "expression" (inner.walk m)
  | .cast _ operand _ _ => .deeper "expression" (operand.walk m)
  | .nullTest operand negated =>
    .deeper "expression" (.all [m.leaf (.nullTest operand negated), operand.walk m.operand])
  | .distinctTest left negated right =>
    .deeper "expression" (.all [m.leaf (.distinctTest left negated right), left.walk m.operand,
      right.walk m.operand])
  | .quantified left op quantifier right =>
    .deeper "expression" (.all [m.leaf (.quantified left op quantifier right),
      left.walk m.operand, right.walk m.operand])
  | .between operand negated low high =>
    .deeper "expression" (.all [m.leaf (.between operand negated low high),
      operand.walk m.operand, low.walk .mention, high.walk .mention])
  | .inList operand negated items =>
    .deeper "expression" (.all [m.leaf (.inList operand negated items), operand.walk m.operand,
      walkExprs .mention items])
  | .inQuery operand _ query =>
    .deeper "expression" (.all [operand.walk m.operand,
      .nested .select query.render query.walk .addSubquery])
  | .pattern kind operand negated any against escape =>
    .deeper "expression" (.all [m.leaf (.pattern kind operand negated any against escape),
      (match kind with
        | .similar => .unsupported "SIMILAR TO is outside the supported grammar"
        | _ => .skip),
      operand.walk m.operand, against.walk .mention])
  | .existsQuery _ query =>
    .deeper "expression" (.nested .select query.render query.walk .addSubquery)
  | .subquery query =>
    .deeper "expression" (.nested .select query.render query.walk .addSubquery)
  | .call _ _ arguments _ filter _ window =>
    .deeper "expression" (.all [arguments.walk m.operand, walkOption m.operand filter,
      window.walk m.operand])
  | .braced call => call.walk m
  | .cases operand conditions results otherwise =>
    .deeper "expression" (.all [walkOption m.operand operand, walkExprs m.operand conditions,
      walkExprs m.operand results, walkOption m.operand otherwise])
  | .trim _ what operand characters =>
    .deeper "expression" (.all [operand.walk m.operand, walkOption m.operand what,
      walkExprs m.operand characters])
  | .groupingSets parts =>
    .deeper "expression" (.all [.unsupported "GROUPING SETS is outside the supported grammar",
      walkPieces m.operand parts])
  | .template parts => .deeper "expression" (walkPieces m.operand parts)
  | .raw _ => .deeper "expression" .skip

def walkExprs (m : Mode) : List Expr → Walk
  | [] => .skip
  | e :: es => .all [e.walk m, walkExprs m es]

def walkOption (m : Mode) : Option Expr → Walk
  | none => .skip
  | some e => e.walk m

/-- Walks the expressions among the pieces of a form. -/
def walkPieces (m : Mode) : List Piece → Walk
  | [] => .skip
  | .expr e :: ps => .all [e.walk m, walkPieces m ps]
  | _ :: ps => walkPieces m ps

def Args.walk (m : Mode) : Args → Walk
  | .none => .skip
  | .query q => .nested .select q.render q.walk .addSubquery
  | .list _ items _ => walkArgs m items

def walkArgs (m : Mode) : List Arg → Walk
  | [] => .skip
  | a :: as => .all [a.walk m, walkArgs m as]

/-- Walks the value of an argument. One that is named by an expression is passed over. -/
def Arg.walk (m : Mode) : Arg → Walk
  | .value e => e.walk m
  | .wildcard _ => .skip
  | .named _ _ (.value e) => e.walk m
  | .named _ _ _ => .skip
  | .keyed _ _ _ => .skip

def Window.walk (m : Mode) : Window → Walk
  | .none => .skip
  | .named _ => .skip
  | .spec _ partition order frame =>
    .all [walkExprs m partition, walkKeys m order,
      if frame.isEmpty then .skip
      else .unsupported "window frames (ROWS / RANGE) are outside the supported grammar"]

def walkKeys (m : Mode) : List OrderKey → Walk
  | [] => .skip
  | k :: ks => .all [k.walk m, walkKeys m ks]

def OrderKey.walk (m : Mode) : OrderKey → Walk
  | .mk expr _ => expr.walk m

def Query.walk : Query → Walk
  | ⟨recursive, ctes, body, order, _⟩ =>
    .deeper "query" (.all [
      if recursive then
        .unsupported "WITH RECURSIVE is outside the supported grammar; extracted as a plain CTE"
      else .skip,
      walkCtes ctes, body.walk, walkKeys ⟨.filtered, false⟩ order])

def walkCtes : List Cte → Walk
  | [] => .skip
  | c :: cs => .all [c.walk, walkCtes cs]

def Cte.walk : Cte → Walk
  | ⟨aliasName, _, query, _⟩ =>
    .all [.nested .cte query.render query.walk .addCte, .register ⟨aliasName.name.text, none, none⟩]

def SetExpr.walk : SetExpr → Walk
  | .select s => s.walk
  | .query q => q.walk
  | .operation .union _ left right =>
    .all [.branch (.deeper "UNION branch" left.walk), .branch (.deeper "UNION branch" right.walk)]
  | .operation op _ _ _ =>
    .unsupported (op.render ++ " is outside the supported grammar; branches skipped")
  | .values _ => .skip
  | .insert _ => .skip
  | .update _ => .skip
  | .other _ => .skip

def Select.walk : Select → Walk
  | ⟨_, projection, _, sources, _, filter, grouping, _, having, _⟩ =>
    .all [walkSources sources, walkItems projection, walkOption .predicate filter, grouping.walk,
      walkOption ⟨.filtered, false⟩ having]

def Grouping.walk : Grouping → Walk
  | .all _ => .skip
  | .keys exprs _ => walkExprs ⟨.filtered, false⟩ exprs

def walkItems : List SelectItem → Walk
  | [] => .skip
  | i :: is => .all [i.walk, walkItems is]

def SelectItem.walk : SelectItem → Walk
  | .expr e => e.walk ⟨.selected, false⟩
  | .aliased e aliasName =>
    match e.columnRef? with
    | some c => .recordRef c .selected (some aliasName.text)
    | none => e.walk ⟨.selected, false⟩
  | .wildcard _ => fun _ s ↦ selectWildcard none s
  | .qualifiedWildcard name _ => fun r s ↦
    selectWildcard (name.getLast?.map fun i ↦ s.resolve r.outer i.text) s

def walkSources : List TableWithJoins → Walk
  | [] => .skip
  | t :: ts => .all [fun r s ↦ (t.walk r s).2, walkSources ts]

/-- Walks a relation with its joins and tells the table that its columns belong to. -/
def TableWithJoins.walk : TableWithJoins → Reach → Scope → Option String × Scope
  | ⟨relation, joins⟩, r, s =>
    match relation.walk r s with
    | (base, s) => (base, walkJoins base joins r s)

/-- Walks joins, each with the relation before it on its left. -/
def walkJoins (left : Option String) : List Join → Walk
  | [] => .skip
  | ⟨global, relation, operator⟩ :: js => fun r s ↦
    match relation.walk r s with
    | (right, s) =>
      walkJoins right js r (operator.walk left right (Join.render ⟨global, relation, operator⟩) r s)

/-- Walks a join of two tables, from after its right side. -/
def JoinOperator.walk (left right : Option String) (text : String) : JoinOperator → Walk
  | .inner c => c.walk .inner left right
  | .left c => c.walk .left left right
  | .right c => c.walk .right left right
  | .full c => c.walk .full left right
  | .cross => .skip
  | .special _ _ _ => .unsupported ("join `" ++ text ++ "` is not modeled")

def JoinConstraint.walk (kind : JoinKind) (left right : Option String) : JoinConstraint → Walk
  | .on e => joinOn kind left right e (e.walk .mention)
  | .usingColumns _ =>
    .unsupported (kind.render ++ " join with USING is not modeled as a join edge")
  | .natural =>
    .unsupported ("NATURAL " ++ kind.render ++ " join is not modeled as a join edge")
  | .none => .skip

/-- Walks a relation and tells the table that its columns belong to. -/
def TableFactor.walk : TableFactor → Reach → Scope → Option String × Scope
  | .table name _ aliasName _, _, s =>
    let t := name.toTableUse (aliasName.map (·.name.text))
    (some t.name, s.register t)
  | .derived _ query aliasName, r, s =>
    let s := Walk.nested .select query.render query.walk .addSubquery r s
    match aliasName with
    | some a => (some a.name.text, s.register ⟨a.name.text, none, none⟩)
    | none => (none, s)
  | .nestedJoin joined aliasName, r, s =>
    match joined.walk r s, aliasName with
    | (_, s), some a => (some a.name.text, s.register ⟨a.name.text, none, none⟩)
    | (base, s), none => (base, s)
  | .special parts aliasName tail, _, s =>
    (none, s.unsupported ("FROM item `" ++ TableFactor.render (.special parts aliasName tail) ++
      "` is not modeled"))

end

/-! ## Writes -/

def Insert.walk (i : Insert) : Walk := fun r s ↦
  let t := i.table.toTableUse (i.aliasName.map Ident.text)
  let s := i.columns.foldl (fun s c ↦
    s.edit (·.record ⟨c.text, some t.name, none, .ofRole .modified, none, none⟩)) (s.register t)
  match i.source with
  | none => s
  | some q =>
    match q.body with
    | .values _ => s
    | _ => Walk.nested .select q.render q.walk .addSubquery r s

/-- Records a column that is assigned to. A bare one belongs to the table that is updated. -/
def assignColumn (target : Option String) (name : ObjectName) : Walk := fun r s ↦
  match name.columnRef? with
  | none => s
  | some c =>
    let table := match c.qualifier with
      | some qualifier => some (s.resolve r.outer qualifier)
      | none => target
    s.edit (·.record ⟨c.column, table, none, .ofRole .modified, none, none⟩)

def Assignment.walk (target : Option String) : Assignment → Walk
  | .mk (.column name) value => .all [assignColumn target name, value.walk .mention]
  | .mk (.tuple names) value =>
    .all [.all (names.map (assignColumn target)), value.walk .mention]

def Update.walk (u : Update) : Walk := fun r s ↦
  match u.table.walk r s with
  | (target, s) =>
    Walk.all [.all (u.assignments.map (·.walk target)), walkOption .predicate u.filter] r s

def Delete.walk (d : Delete) : Walk :=
  .all [walkSources d.sources, walkSources d.others, walkOption .predicate d.filter]

def Statement.walk : Statement → Walk
  | .query q => q.walk
  | .insert i => i.walk
  | .update u => u.walk
  | .delete d => d.walk
  | .createTable _ | .other _ => .skip

/-- The kind of a statement. One that neither reads nor writes rows counts as a selection. -/
def Statement.kind : Statement → StatementKind
  | .insert _ => .insert
  | .update _ => .update
  | .delete _ => .delete
  | .query _ | .createTable _ | .other _ => .select

end SqlFootprint.Sql

namespace SqlFootprint

/-- The footprint of a statement with a given text, down to a limited depth. -/
def Footprint.ofStatement (limit : Nat) (statement : Sql.Statement) (text : String) : Footprint :=
  (statement.walk ⟨[], 0, limit⟩ (.start statement.kind text)).finish

end SqlFootprint
