import SqlFootprint.Proofs.Extraction.Nesting
import SqlFootprint.Proofs.Extraction.Recording
import SqlFootprint.Proofs.Extraction.Scoping
import SqlFootprint.Proofs.Extraction.Tables

/-!
# The columns that a statement writes

An insertion writes the columns that it lists, and an update those that it assigns to. They are read
off the syntax, and are the columns that play the role `modified` in the footprint of the statement,
no more and no less. Queries only read, so that nothing inside a footprint is modified.

A write that stands after `WITH` is the body of a query, and therefore lost.
-/

namespace SqlFootprint

namespace Sql

/-! ## Written columns -/

mutual

/-- The relations that an item of `FROM` adds to those that qualifiers may mean. -/
def TableFactor.registered : TableFactor → List TableUse
  | .table name _ aliasName _ => [name.toTableUse (aliasName.map (·.name.text))]
  | .derived _ _ aliasName => aliasName.toList.map TableAlias.toTableUse
  | .nestedJoin joined aliasName =>
    joined.registered ++ aliasName.toList.map TableAlias.toTableUse
  | .special _ _ _ => []

def TableWithJoins.registered : TableWithJoins → List TableUse
  | ⟨relation, joins⟩ => relation.registered ++ registeredByJoins joins

def registeredByJoins : List Join → List TableUse
  | [] => []
  | ⟨_, relation, _⟩ :: js => relation.registered ++ registeredByJoins js

end

/-- The keys of the columns that are listed, which the table owns. -/
def Insert.written (i : Insert) : List (String × String) :=
  i.columns.map fun c ↦ ((i.table.toTableUse (i.aliasName.map Ident.text)).name, c.text)

/-- The names that are assigned to, those of tuples included. -/
def Assignment.names : Assignment → List ObjectName
  | .mk (.column name) _ => [name]
  | .mk (.tuple names) _ => names

/-- The table of a column after `SET`. A bare one belongs to the base relation of the update, and a
qualified one to the table that its qualifier means. -/
def Update.tableOf? (u : Update) (c : ColumnRef) : Option String :=
  match c.qualifier with
  | some q => ((TableUse.find? u.table.registered.reverse q).map TableUse.name).getD q
  | none => u.table.owner?

/-- The key of the column that a name after `SET` means. -/
def Update.key? (u : Update) (name : ObjectName) : Option (String × String) :=
  name.columnRef?.map fun c ↦ ((u.tableOf? c).getD "", c.column)

def Update.written (u : Update) : List (String × String) :=
  (u.assignments.flatMap Assignment.names).flatMap fun name ↦ (u.key? name).toList

/-- The keys of the columns that a statement writes. A column without a table has the empty one. -/
def Statement.written : Statement → List (String × String)
  | .insert i => i.written
  | .update u => u.written
  | .query _ | .delete _ | .createTable _ | .other _ => []

end Sql

/-- A key up to the case of ASCII letters. -/
def foldKey (key : String × String) : String × String :=
  (Text.foldAscii key.1, Text.foldAscii key.2)

/-! ## Reading -/

namespace Walk

open Footprint

/-- What only reads writes nothing, not even through the queries inside it. -/
theorem Composed.plays_modified {roles : Role → Prop} {ts : List TableUse} {w : Walk}
    (h : Composed roles ts w) (reads : ∀ role, roles role → role ≠ .modified) (r : Reach)
    (s : Scope) (key : String × String) :
    (w r s).footprint.Plays .modified key ↔ s.footprint.Plays .modified key := by
  induction h generalizing r s with
  | skip | condition | unsupported | register => exact .rfl
  | andThen _ _ ihv ihw => exact (ihw reads r _).trans (ihv reads r s)
  | use name table aliasName qualifier hr => exact plays_record_of_ne (reads _ hr) nofun
  | join kind left right on _ _ ih =>
    rcases joinOn_eq kind (s.known? left) (s.known? right) on _ r s with ⟨e, -, h⟩ | ⟨-, h⟩
    · have side (f : Footprint) (table column : String) :
          (f.record ⟨column, some table, none, .ofRole .joined, none, none⟩).Plays .modified key ↔
            f.Plays .modified key := plays_record_of_ne nofun nofun
      rw [Walk.join, h]
      exact (side _ e.rightTable e.rightColumn).trans (side _ e.leftTable e.leftColumn)
    · rw [Walk.join, h]
      exact ih reads r (s.unsupported _)
  | deeper what _ ih =>
    rcases Nat.lt_or_ge r.depth r.limit with hd | hd
    · rw [deeper_of_lt hd]
      exact ih reads _ s
    · rw [deeper_of_le hd]
      exact .rfl
  | @query _ _ w place q _ _ ih =>
    rcases Nat.lt_or_ge r.depth r.limit with hd | hd
    · rw [query_of_lt hd]
      have inside := ih (fun _ ↦ And.right) (r.inside s) (.start place.kind q.render)
      have child : ¬(Walk.child place q.render w r s).Plays .modified key := fun plays ↦
        ColumnUse.not_playing_nil (inside.1 (plays_dedup.1 plays))
      exact (plays_keep_absorb place).trans (or_iff_left child)
    · rw [query_of_le hd]
      exact .rfl
  | branch _ ih => exact ih reads r s
  | negated _ ih => exact ih reads r s

end Walk

namespace Footprint

/-- No column of a footprint is modified. -/
def IsUnmodified (f : Footprint) : Prop :=
  ∀ c ∈ f.columns, ¬c.roles.modified

theorem isUnmodified_iff {f : Footprint} :
    f.IsUnmodified ↔ ∀ key, ¬f.Plays .modified key := by
  constructor
  · rintro h key ⟨c, hc, -, has⟩
    exact h c hc has
  · intro h c hc has
    exact h c.foldedKey ⟨c, hc, rfl, has⟩

end Footprint

theorem Sql.Query.isUnmodified_footprint (q : Query) (kind : StatementKind) (r : Reach) :
    (q.footprint kind r).IsUnmodified := by
  rw [Footprint.isUnmodified_iff]
  intro key plays
  have walked := q.walk_composed.walk.plays_modified (fun _ ↦ And.right) r
    (.start kind q.render) key
  exact ColumnUse.not_playing_nil (walked.1 (Footprint.plays_dedup.1 plays))

namespace Sql

/-! ## Scopes of updates -/

theorem JoinConstraint.visible_walk (kind : JoinKind) (left right : Option String)
    (c : JoinConstraint) (r : Reach) (s : Scope) :
    (c.walk kind left right r s).visible = s.visible := by
  cases c with
  | on e =>
    rcases Walk.joinOn_eq kind left right e (e.walk .mention) r s with ⟨edge, -, h⟩ | ⟨-, h⟩
    · rw [JoinConstraint.walk, h]
      rfl
    · rw [JoinConstraint.walk, h]
      exact (e.walk_reading .mention).visible r (s.unsupported _)
  | usingColumns columns => rfl
  | natural => rfl
  | none => rfl

theorem JoinOperator.visible_walk (left right : Option String) (text : String)
    (o : JoinOperator) (r : Reach) (s : Scope) :
    (o.walk left right text r s).visible = s.visible := by
  cases o with
  | inner c => exact c.visible_walk .inner left right r s
  | left c => exact c.visible_walk .left left right r s
  | right c => exact c.visible_walk .right left right r s
  | full c => exact c.visible_walk .full left right r s
  | cross => rfl
  | special words matching c => rfl

mutual

theorem TableFactor.visible_walk (r : Reach) : ∀ (t : TableFactor) (s : Scope),
    (t.walk r s).2.visible = s.visible ++ t.registered
  | .table _ _ _ _, _ => rfl
  | .derived _ query none, s => by
    have nested := (Walk.Reading.query query).visible r s
    rw [TableFactor.registered, Option.toList_none, List.map_nil, List.append_nil]
    exact nested
  | .derived _ query (some a), s => by
    have nested := (Walk.Reading.query query).visible r s
    exact congrArg (· ++ [a.toTableUse]) nested
  | .nestedJoin joined none, s => by
    rw [TableFactor.registered, Option.toList_none, List.map_nil, List.append_nil]
    exact joined.visible_walk r s
  | .nestedJoin joined (some a), s => by
    have inner := congrArg (· ++ [a.toTableUse]) (joined.visible_walk r s)
    rw [List.append_assoc] at inner
    exact inner
  | .special _ _ _, s => (List.append_nil s.visible).symm

theorem TableWithJoins.visible_walk (r : Reach) : ∀ (t : TableWithJoins) (s : Scope),
    (t.walk r s).2.visible = s.visible ++ t.registered
  | ⟨relation, joins⟩, s => by
    have rest := visible_walkJoins r (relation.walk r s).1 joins (relation.walk r s).2
    rw [relation.visible_walk r s, List.append_assoc] at rest
    exact rest

theorem visible_walkJoins (r : Reach) (left : Option String) : ∀ (js : List Join) (s : Scope),
    (walkJoins left js r s).visible = s.visible ++ registeredByJoins js
  | [], s => (List.append_nil s.visible).symm
  | ⟨global, relation, operator⟩ :: js, s => by
    have joined := operator.visible_walk left (relation.walk r s).1
      (Join.render ⟨global, relation, operator⟩) r (relation.walk r s).2
    have rest := visible_walkJoins r (relation.walk r s).1 js
      (operator.walk left (relation.walk r s).1 (Join.render ⟨global, relation, operator⟩) r
        (relation.walk r s).2)
    rw [joined, relation.visible_walk r s, List.append_assoc] at rest
    exact rest

end

end Sql

/-! ## Writing -/

namespace Walk

/-- In a scope with these relations, a walk writes to the columns with these keys and leaves the
relations as they are. -/
def Writing (r : Reach) (relations : List TableUse) (keys : List (String × String)) (w : Walk) :
    Prop :=
  ∀ s : Scope, s.visible = relations → (w r s).visible = relations ∧
    ∀ key, (w r s).footprint.Plays .modified key ↔
      s.footprint.Plays .modified key ∨ key ∈ keys.map foldKey

namespace Writing

variable {r : Reach} {relations : List TableUse} {keys keys' : List (String × String)} {v w : Walk}

theorem skip : Writing r relations [] .skip :=
  fun _ h ↦ ⟨h, fun _ ↦ (or_iff_left List.not_mem_nil).symm⟩

theorem cons {ws : List Walk} (hw : Writing r relations keys w)
    (hws : Writing r relations keys' (.all ws)) :
    Writing r relations (keys ++ keys') (.all (w :: ws)) := by
  intro s hs
  obtain ⟨between, first⟩ := hw s hs
  obtain ⟨visible, rest⟩ := hws (w r s) between
  refine ⟨visible, fun key ↦ (rest key).trans ?_⟩
  rw [first, List.map_append, List.mem_append, or_assoc]

theorem pair (hv : Writing r relations keys v) (hw : Writing r relations keys' w) :
    Writing r relations (keys ++ keys') (.all [v, w]) := by
  have rest : Writing r relations (keys' ++ []) (.all [w]) := hw.cons skip
  rw [List.append_nil] at rest
  exact hv.cons rest

theorem all_map {α : Type} {keys : α → List (String × String)} {walk : α → Walk}
    (h : ∀ x, Writing r relations (keys x) (walk x)) (xs : List α) :
    Writing r relations (xs.flatMap keys) (.all (xs.map walk)) := by
  induction xs with
  | nil => exact skip
  | cons x xs ih => exact (h x).cons ih

/-- Expressions are only read. -/
theorem expr (e : Sql.Expr) {m : Mode} (hm : m.role.Reads) :
    Writing r relations [] (e.walk m) := by
  intro s hs
  refine ⟨((e.walk_reading m).visible r s).trans hs, fun key ↦ ?_⟩
  rw [List.map_nil, or_iff_left List.not_mem_nil]
  exact (e.walk_composed hm).plays_modified (fun _ ↦ And.right) r s key

theorem option (e : Option Sql.Expr) {m : Mode} (hm : m.role.Reads) :
    Writing r relations [] (Sql.walkOption m e) := by
  cases e with
  | none => exact skip
  | some e => exact expr e hm

end Writing

end Walk

namespace Sql

open Walk (Writing)

theorem assignColumn_writing (u : Update) {r : Reach} (outermost : r.outer = [])
    (name : ObjectName) :
    Writing r u.table.registered (u.key? name).toList (assignColumn u.table.owner? name) := by
  have modified : (Roles.ofRole .modified).has .modified := rfl
  intro s hs
  unfold assignColumn Update.key?
  cases name.columnRef? with
  | none => exact Writing.skip (r := r) s hs
  | some c =>
    have meant (q : String) : s.resolve r.outer q =
        ((TableUse.find? u.table.registered.reverse q).map TableUse.name).getD q := by
      rw [s.resolve_eq, Scope.ownTable?, hs, outermost]
      exact congrArg (fun t ↦ (Option.map TableUse.name t).getD q) Option.or_none
    refine ⟨hs, fun key ↦ Footprint.plays_record.trans (or_congr_right ?_)⟩
    rw [and_iff_left modified, eq_comm, Option.map_some, Option.toList_some, List.map_singleton,
      List.mem_singleton]
    unfold Update.tableOf?
    cases c.qualifier with
    | none => rfl
    | some q =>
      simp only [← meant]
      rfl

theorem Assignment.walk_writing (u : Update) {r : Reach} (outermost : r.outer = [])
    (a : Assignment) :
    Writing r u.table.registered (a.names.flatMap fun name ↦ (u.key? name).toList)
      (a.walk u.table.owner?) := by
  obtain ⟨target, value⟩ := a
  have read : Writing r u.table.registered [] (value.walk .mention) := .expr value .mentioned
  cases target with
  | column name =>
    have written := (assignColumn_writing u outermost name).pair read
    rw [List.append_nil] at written
    rw [Assignment.names, List.flatMap_singleton]
    exact written
  | tuple names =>
    have written := (Writing.all_map (assignColumn_writing u outermost) names).pair read
    rw [List.append_nil] at written
    exact written

theorem Update.plays_modified (u : Update) {r : Reach} (outermost : r.outer = [])
    (kind : StatementKind) (text : String) (key : String × String) :
    (u.walk r (.start kind text)).footprint.Plays .modified key ↔ key ∈ u.written.map foldKey := by
  have table := u.table.walk_composed
  have visible := u.table.visible_walk r (.start kind text)
  have assigned := Writing.all_map (Assignment.walk_writing u outermost) u.assignments
  have filtered : Writing r u.table.registered [] (walkOption .predicate u.filter) :=
    .option u.filter .filtered
  have walked := ((assigned.pair filtered) _ visible).2 key
  -- The relations that come before the assignments write nothing.
  have before : ¬(u.table.walk r (.start kind text)).2.footprint.Plays .modified key := fun plays ↦
    ColumnUse.not_playing_nil
      ((table.composed.plays_modified (fun _ ↦ And.right) r (.start kind text) key).1 plays)
  rw [or_iff_right before, List.append_nil, ← List.flatMap_assoc] at walked
  rw [Update.walk, Update.written, ← walked, ← table.owner_eq r (.start kind text)]

/-- The columns of an insertion are recorded one after the other. -/
theorem columns_insertColumns (table : String) (columns : List Ident) (s : Scope) :
    (columns.foldl (fun s c ↦
      s.edit (·.record ⟨c.text, some table, none, .ofRole .modified, none, none⟩))
      s).footprint.columns =
    ColumnUse.recordAll s.footprint.columns (columns.map fun c ↦
      ⟨c.text, some table, none, .ofRole .modified, none, none⟩) := by
  induction columns generalizing s with
  | nil => rfl
  | cons c cs ih => exact ih _

theorem Insert.plays_modified (i : Insert) (r : Reach) (kind : StatementKind) (text : String)
    (key : String × String) :
    (i.walk r (.start kind text)).footprint.Plays .modified key ↔ key ∈ i.written.map foldKey := by
  have reading : Walk.Composed Role.Reads i.sourceRelations i.sourceWalk := i.sourceWalk_composed
  refine (reading.plays_modified (fun _ ↦ And.right) r _ key).trans ?_
  rw [Footprint.Plays, columns_insertColumns, ColumnUse.playing_recordAll]
  refine (or_iff_right ColumnUse.not_playing_nil).trans ?_
  constructor
  · rintro ⟨c, hc, rfl, -⟩
    obtain ⟨column, listed, rfl⟩ := List.mem_map.1 hc
    exact List.mem_map_of_mem (List.mem_map_of_mem listed)
  · intro written
    obtain ⟨_, hw, rfl⟩ := List.mem_map.1 written
    obtain ⟨column, listed, rfl⟩ := List.mem_map.1 hw
    exact ⟨_, List.mem_map_of_mem listed, rfl, rfl⟩

/-- What the walk of a statement leaves modified is what the statement writes. -/
theorem Statement.plays_modified (statement : Statement) {r : Reach} (outermost : r.outer = [])
    (kind : StatementKind) (text : String) (key : String × String) :
    (statement.walk r (.start kind text)).footprint.Plays .modified key ↔
      key ∈ statement.written.map foldKey := by
  have reading {ts : List TableUse} {w : Walk} (h : Walk.Composed Role.Reads ts w) :
      (w r (.start kind text)).footprint.Plays .modified key ↔ key ∈ ([] : List (String × String)) :=
    (h.plays_modified (fun _ ↦ And.right) r _ key).trans
      (iff_of_false ColumnUse.not_playing_nil List.not_mem_nil)
  cases statement with
  | query q => exact reading q.walk_composed.walk
  | insert i => exact i.plays_modified r kind text key
  | update u => exact u.plays_modified outermost kind text key
  | delete d => exact reading d.walk_composed
  | createTable _ => exact reading .skip
  | other _ => exact reading .skip

end Sql

namespace Footprint

theorem plays_modified_ofStatement (limit : Nat) (statement : Sql.Statement) (text : String)
    (key : String × String) :
    (ofStatement limit statement text).Plays .modified key ↔ key ∈ statement.written.map foldKey :=
  plays_dedup.trans (statement.plays_modified rfl statement.kind text key)

theorem isUnmodified_of_mem_inner {limit : Nat} {statement : Sql.Statement} {text : String}
    {n : Footprint} (hn : n ∈ (ofStatement limit statement text).inner) : n.IsUnmodified := by
  obtain ⟨q, kind, r, rfl⟩ := ofQueries_ofStatement limit statement text n hn
  exact q.isUnmodified_footprint kind r

/-- The columns that are modified in the footprint of a statement are those that the statement
writes, and nothing inside the footprint is modified. -/
theorem modified_ofStatement (limit : Nat) (statement : Sql.Statement) (text : String) :
    (∀ n ∈ (ofStatement limit statement text).inner, ∀ c ∈ n.columns, ¬c.roles.modified) ∧
    (∀ c ∈ (ofStatement limit statement text).columns,
      c.roles.modified ↔ ∃ w ∈ statement.written, c.hasKey w.1 w.2) ∧
    ∀ w ∈ statement.written, ∃ c ∈ (ofStatement limit statement text).columns,
      c.hasKey w.1 w.2 := by
  have plays := plays_modified_ofStatement limit statement text
  have single := (isSound_ofStatement limit statement text).wellFormed
  have written (c : ColumnUse) :
      c.foldedKey ∈ statement.written.map foldKey ↔ ∃ w ∈ statement.written, c.hasKey w.1 w.2 := by
    simp only [List.mem_map, ColumnUse.hasKey_eq_true_iff]
    exact exists_congr fun w ↦ and_congr_right fun _ ↦ eq_comm
  refine ⟨fun n hn ↦ isUnmodified_of_mem_inner hn, fun c hc ↦ ?_, fun w hw ↦ ?_⟩
  · rw [← written, ← plays]
    constructor
    · intro modified
      exact ⟨c, hc, rfl, modified⟩
    · intro h
      exact single.has_of_plays hc h
  · obtain ⟨c, hc, key, -⟩ := (plays (foldKey w)).2 (List.mem_map_of_mem hw)
    exact ⟨c, hc, ColumnUse.hasKey_eq_true_iff.2 key⟩

/-- In `UPDATE t x SET a = (SELECT b FROM u), (x.c, u.d) = a + e` the bare column and the one with
the alias are columns of `t`, and the columns that are read are not modified. -/
theorem modified_ofStatement_sample :
    let column (path : List String) (name : String) : Sql.Expr :=
      .column (path.map (⟨·, none⟩)) ⟨name, none⟩
    let query : Sql.Query := .plain [.expr (column [] "b")] [.named [⟨"u", none⟩]]
    let update : Sql.Statement := .update ⟨"", .named [⟨"t", none⟩] "x",
      [.mk (.column [⟨"a", none⟩]) (.subquery query),
        .mk (.tuple [[⟨"x", none⟩, ⟨"c", none⟩], [⟨"u", none⟩, ⟨"d", none⟩]])
          (.binary (column [] "a") (.other "+") (column [] "e"))], [], none, []⟩
    let f := ofStatement 9 update ""
    update.written = [("t", "a"), ("t", "c"), ("u", "d")] ∧
      (∃ n ∈ f.inner, ∃ c ∈ n.columns, c.name = "b" ∧ ¬c.roles.modified) ∧
      (∃ c ∈ f.columns, c.key = ("", "a") ∧ ¬c.roles.modified) ∧
      ∃ c ∈ f.columns, c.hasKey "t" "c" ∧ c.roles.modified := by
  intro column query update f
  have inside : ∃ n ∈ f.inner, ∃ c ∈ n.columns, c.name = "b" := by decide +kernel
  have bare : ∃ c ∈ f.columns, c.key = ("", "a") := by decide +kernel
  have written : update.written = [("t", "a"), ("t", "c"), ("u", "d")] := by decide +kernel
  obtain ⟨inner, roles, listed⟩ := modified_ofStatement 9 update ""
  rw [written] at roles listed
  obtain ⟨n, hn, b, hb, name⟩ := inside
  obtain ⟨a, ha, key⟩ := bare
  obtain ⟨c, hc, same⟩ := listed ("t", "c") (by decide)
  refine ⟨written, ⟨n, hn, b, hb, name, inner n hn b hb⟩, ⟨a, ha, key, fun modified ↦ ?_⟩,
    c, hc, same, (roles c hc).2 ⟨("t", "c"), by decide, same⟩⟩
  obtain ⟨w, hw, fits⟩ := (roles a ha).1 modified
  rw [ColumnUse.hasKey, key] at fits
  revert w
  decide +kernel

end Footprint

/-! ## Writes after `WITH` -/

namespace Sql

/-- A statement that writes rows and may stand after `WITH`. -/
inductive Write where
  | insert (i : Insert)
  | update (u : Update)

namespace Write

def statement : Write → Statement
  | insert i => .insert i
  | update u => .update u

/-- What a query has for its body where a write stands after `WITH`. -/
def body : Write → SetExpr
  | insert i => .insert i
  | update u => .update u

end Write

/-- The query that `WITH ctes` makes of what stands after it. -/
def SetExpr.after (recursive : Bool) (ctes : List Cte) (body : SetExpr) : Query :=
  ⟨recursive, ctes, body, [], []⟩

/-- The tables of a write are no relations of the query whose body it is. -/
theorem Write.relations_after (d : Write) (recursive : Bool) (ctes : List Cte) :
    (d.body.after recursive ctes).relations = relationsOfCtes ctes := by
  refine Eq.trans ?_ (List.append_nil _)
  cases d with
  | insert i => rfl
  | update u => rfl

end Sql

theorem Footprint.kind_ofStatement (limit : Nat) (statement : Sql.Statement) (text : String) :
    (ofStatement limit statement text).kind = statement.kind :=
  (statement.walk_composed.effect Walk.effect_labels ⟨[], 0, limit⟩
    (.start statement.kind text)).1

/-- A write after `WITH` is lost. The footprint is that of a query with no more than the clause: it
is of another kind, has the relations of the clause at most, and nothing is modified in it. Only
where the write on its own modifies nothing do the two agree on what is modified. -/
theorem Footprint.ofStatement_after_with (limit : Nat) (recursive : Bool) (ctes : List Sql.Cte)
    (d : Sql.Write) (text : String) :
    let f := ofStatement limit (.query (d.body.after recursive ctes)) text
    let g := ofStatement limit d.statement text
    f = ofStatement limit (.query ((Sql.SetExpr.values []).after recursive ctes)) text ∧
    f.kind ≠ g.kind ∧
    (∀ t ∈ f.tables, t ∈ Sql.relationsOfCtes ctes) ∧
    (∀ p ∈ f.parts, ∀ c ∈ p.columns, ¬c.roles.modified) ∧
    ((∀ key, f.Plays .modified key ↔ g.Plays .modified key) ↔ d.statement.written = []) := by
  intro f g
  have unmodified (key : String × String) : ¬f.Plays .modified key := fun plays ↦
    List.not_mem_nil ((plays_modified_ofStatement limit _ text key).1 plays)
  refine ⟨?_, ?_, fun t ht ↦ ?_, fun p hp ↦ ?_, ?_⟩
  · cases d with
    | insert i => rfl
    | update u => rfl
  · rw [kind_ofStatement, kind_ofStatement]
    cases d with
    | insert i => exact nofun
    | update u => exact nofun
  · rw [← d.relations_after recursive ctes]
    exact mem_relations_of_mem_tables ht
  · rw [parts_eq, List.mem_cons] at hp
    obtain rfl | inside := hp
    · exact isUnmodified_iff.2 unmodified
    · exact isUnmodified_of_mem_inner inside
  · have alone (key : String × String) :
        g.Plays .modified key ↔ key ∈ d.statement.written.map foldKey :=
      plays_modified_ofStatement limit d.statement text key
    simp only [alone, iff_false_left (unmodified _)]
    rw [← List.map_eq_nil_iff (f := foldKey), List.eq_nil_iff_forall_not_mem]

/-- In `WITH x AS (SELECT b FROM u) INSERT INTO t (a) VALUES (1)` the table `t` and its modified
column are lost without a notice, and the footprint is one of a selection. -/
theorem Footprint.not_same_after_with :
    let cte : Sql.Cte := ⟨⟨⟨"x", none⟩, []⟩, "",
      .plain [.expr (.column [] ⟨"b", none⟩)] [.named [⟨"u", none⟩]], ""⟩
    let rows : Sql.Query := ⟨false, [], .values [.text "(1)"], [], []⟩
    let d : Sql.Write := .insert ⟨"", [⟨"t", none⟩], none, [⟨"a", none⟩], [], some rows, [], []⟩
    let f := ofStatement 9 (.query (d.body.after false [cte])) ""
    let g := ofStatement 9 d.statement ""
    f.allNotices = [] ∧ f.kind = .select ∧ g.kind = .insert ∧
      (f.tables.map TableUse.name = ["u", "x"] ∧ g.tables.map TableUse.name = ["t"]) ∧
      (f.columns.filter (·.roles.modified)).map ColumnUse.key = [] ∧
      (g.columns.filter (·.roles.modified)).map ColumnUse.key = [("t", "a")] := by
  decide +kernel

end SqlFootprint
