import SqlFootprint.Proofs.Extraction.Conditions
import SqlFootprint.Proofs.Extraction.Tables

/-!
# The branches of a union

Each branch of a union is walked from the scope that the union is walked from, though both add to
one footprint: what a branch enters is dropped after it, and what it adds is the same for all
footprints. So the footprint of a union is what its branches find, each by itself, the left one
first; and whether it comes first makes a difference only to what is listed in order or stands
first.
-/

namespace SqlFootprint

namespace Sql

open Walk (Additive)

/-! ## Sources -/

theorem walkOption_additive (m : Mode) (e : Option Expr) : Additive (walkOption m e) := by
  cases e with
  | none => exact .skip
  | some e => exact (e.walk_gathers m).additive

theorem JoinConstraint.walk_additive (kind : JoinKind) (left right : Option String)
    (c : JoinConstraint) : Additive (c.walk kind left right) := by
  cases c with
  | on e => exact .joinOn kind left right e (e.walk_gathers .mention).additive
  | usingColumns columns => exact .unsupported _
  | natural => exact .unsupported _
  | none => exact .skip

theorem JoinOperator.walk_additive (left right : Option String) (text : String)
    (o : JoinOperator) : Additive (o.walk left right text) := by
  cases o with
  | inner c => exact c.walk_additive .inner left right
  | left c => exact c.walk_additive .left left right
  | right c => exact c.walk_additive .right left right
  | full c => exact c.walk_additive .full left right
  | cross => exact .skip
  | special words matching c => exact .unsupported _

mutual

theorem TableFactor.walk_additive : ∀ t : TableFactor, Additive fun r s ↦ (t.walk r s).2
  | .table _ _ _ _ => .register _
  | .derived _ query none => .nested .elsewhere query
  | .derived _ query (some a) => .andThen (.nested .elsewhere query) (.register a.toTableUse)
  | .nestedJoin joined none => joined.walk_additive
  | .nestedJoin joined (some a) => joined.walk_additive.andThen (.register a.toTableUse)
  | .special _ _ _ => .unsupported _

theorem TableWithJoins.walk_additive : ∀ t : TableWithJoins, Additive fun r s ↦ (t.walk r s).2
  | ⟨relation, joins⟩ => by
    have walked := relation.walk_additive.andThen (walkJoins_additive relation.owner? joins)
    exact walked.congr fun r s ↦ (TableWithJoins.scope_walk relation joins r s).symm

theorem walkJoins_additive (left : Option String) : ∀ js : List Join, Additive (walkJoins left js)
  | [] => .skip
  | ⟨global, relation, operator⟩ :: js => by
    have joined := operator.walk_additive left relation.owner?
      (Join.render ⟨global, relation, operator⟩)
    have walked := relation.walk_additive.andThen
      (joined.andThen (walkJoins_additive relation.owner? js))
    exact walked.congr fun r s ↦ (walkJoins_cons left global relation operator js r s).symm

end

theorem walkSources_additive (ts : List TableWithJoins) : Additive (walkSources ts) := by
  induction ts with
  | nil => exact .skip
  | cons t ts ih => exact .pair t.walk_additive ih

/-! ## Queries -/

theorem SelectItem.walk_additive (i : SelectItem) : Additive i.walk := by
  cases i with
  | expr e => exact (e.walk_gathers _).additive
  | aliased e aliasName =>
    rw [SelectItem.walk]
    cases e.columnRef? with
    | none => exact (e.walk_gathers _).additive
    | some c => exact .recordRef c _ _
  | wildcard options => exact .recordRef ⟨none, "*"⟩ .selected none
  | qualifiedWildcard name options =>
    have recorded := Additive.recordRef ⟨name.getLast?.map Ident.text, "*"⟩ .selected none
    refine recorded.congr fun r s ↦ ?_
    rw [SelectItem.walk, Walk.recordRef, Option.map_map]
    rfl

theorem walkItems_additive (is : List SelectItem) : Additive (walkItems is) := by
  induction is with
  | nil => exact .skip
  | cons i is ih => exact .pair i.walk_additive ih

theorem Grouping.walk_additive (g : Grouping) : Additive g.walk := by
  cases g with
  | all modifiers => exact .skip
  | keys exprs modifiers => exact (walkExprs_quiet _ rfl exprs).additive

theorem Select.walk_additive (s : Select) : Additive s.walk := by
  cases s
  rw [Select.walk]
  exact .cons (walkSources_additive _) (.cons (walkItems_additive _)
    (.cons (walkOption_additive _ _)
      (.pair (Grouping.walk_additive _) (walkOption_additive _ _))))

theorem Cte.walk_additive (c : Cte) : Additive c.walk := by
  cases c
  exact .pair (.nested .withClause _) (.register _)

theorem walkCtes_additive (cs : List Cte) : Additive (walkCtes cs) := by
  induction cs with
  | nil => exact .skip
  | cons c cs ih => exact .pair c.walk_additive ih

mutual

theorem Query.walk_additive : ∀ q : Query, Additive q.walk
  | ⟨recursive, ctes, body, order, _⟩ =>
    .deeper _ (.cons (.ite recursive (.unsupported _) .skip) (.cons (walkCtes_additive ctes)
      (.pair body.walk_additive (walkKeys_quiet _ rfl order).additive)))

theorem SetExpr.walk_additive : ∀ e : SetExpr, Additive e.walk
  | .select s => s.walk_additive
  | .query q => q.walk_additive
  | .operation .union _ left right =>
    .pair (left.walk_additive.deeper _).branch (right.walk_additive.deeper _).branch
  | .operation .except _ _ _ => .unsupported _
  | .operation .intersect _ _ _ => .unsupported _
  | .values _ => .skip
  | .insert _ => .skip
  | .update _ => .skip
  | .other _ => .skip

end

/-! ## Statements -/

theorem insertColumns_additive (table : String) (columns : List Ident) :
    Additive fun _ s ↦ columns.foldl (fun s c ↦
      s.edit (·.record ⟨c.text, some table, none, .ofRole .modified, none, none⟩)) s := by
  induction columns with
  | nil => exact .skip
  | cons c cs ih =>
    have recorded : Additive (.edit
        (·.record ⟨c.text, some table, none, .ofRole .modified, none, none⟩)) :=
      fun r visible ↦ ⟨_, _, .record c.text (some table) none .modified r visible⟩
    exact recorded.andThen ih

theorem assignColumn_additive (target : Option String) (name : ObjectName) :
    Additive (assignColumn target name) := by
  cases hn : name.columnRef? with
  | none =>
    refine Additive.skip.congr fun r s ↦ ?_
    simp only [assignColumn, hn, Walk.skip]
  | some c =>
    cases hq : c.qualifier with
    | none =>
      intro r visible
      refine ⟨_, _, (Walk.Finds.record c.column target none .modified r visible).congr fun f ↦ ?_⟩
      simp only [assignColumn, hn, hq, Walk.edit]
    | some q =>
      refine (Additive.recordRef c .modified none).congr fun r s ↦ ?_
      simp only [assignColumn, hn, hq, Walk.recordRef, Option.map_some]

theorem assignColumns_additive (target : Option String) (names : List ObjectName) :
    Additive (.all (names.map (assignColumn target))) := by
  induction names with
  | nil => exact .skip
  | cons name names ih => exact .cons (assignColumn_additive target name) ih

theorem Assignment.walk_additive (target : Option String) (a : Assignment) :
    Additive (a.walk target) := by
  obtain ⟨target', value⟩ := a
  have walked : Additive (value.walk .mention) := (value.walk_gathers _).additive
  cases target' with
  | column name => exact .pair (assignColumn_additive target name) walked
  | tuple names => exact .pair (assignColumns_additive target names) walked

theorem walkAssignments_additive (target : Option String) (assignments : List Assignment) :
    Additive (.all (assignments.map (·.walk target))) := by
  induction assignments with
  | nil => exact .skip
  | cons a as ih => exact .cons (a.walk_additive target) ih

/-- The relation that is updated is known before it is walked. -/
theorem Update.walk_eq (u : Update) :
    u.walk = Walk.andThen (fun r s ↦ (u.table.walk r s).2)
      (.all [.all (u.assignments.map (·.walk u.table.owner?)),
        walkOption .predicate u.filter]) := by
  funext r s
  rw [Update.walk, ← u.table.walk_composed.owner_eq r s]
  rfl

theorem Insert.walk_eq (i : Insert) :
    i.walk = Walk.andThen (.register (i.table.toTableUse (i.aliasName.map Ident.text)))
      (.andThen (fun _ s ↦ i.columns.foldl (fun s c ↦ s.edit (·.record ⟨c.text,
        some (i.table.toTableUse (i.aliasName.map Ident.text)).name, none, .ofRole .modified, none,
          none⟩)) s) i.sourceWalk) := rfl

theorem Insert.sourceWalk_additive (i : Insert) : Additive i.sourceWalk := by
  unfold sourceWalk
  cases i.source with
  | none => exact .skip
  | some q =>
    cases hb : q.body with
    | values parts =>
      simp only [hb]
      exact .skip
    | _ =>
      simp only [hb]
      exact .nested .elsewhere q

theorem Statement.walk_additive : ∀ s : Statement, Additive s.walk
  | .query q => q.walk_additive
  | .insert i => by
    rw [walk, Insert.walk_eq]
    exact (Additive.register _).andThen
      ((insertColumns_additive _ i.columns).andThen i.sourceWalk_additive)
  | .update u => by
    rw [walk, Update.walk_eq]
    exact u.table.walk_additive.andThen
      (.pair (walkAssignments_additive _ u.assignments) (walkOption_additive _ u.filter))
  | .delete d => by
    rw [walk, Delete.walk]
    exact .cons (walkSources_additive d.sources)
      (.pair (walkSources_additive d.others) (walkOption_additive _ d.filter))
  | .createTable _ => .skip
  | .other _ => .skip

/-! ## Unions -/

/-- A branch of a union, walked by itself. -/
def SetExpr.branchWalk (e : SetExpr) : Walk :=
  .branch (.deeper "UNION branch" e.walk)

theorem SetExpr.exists_finds_branch (e : SetExpr) (r : Reach) (visible : List TableUse) :
    ∃ found, e.branchWalk.Finds r visible found [] := by
  obtain ⟨found, entered, finds⟩ := e.walk_additive.deeper "UNION branch" r visible
  exact ⟨found, finds.branch⟩

/-- From every place, each branch finds something of its own, whatever the footprint is that it adds
to and whatever the other branch is. A union adds what its branches find, in their order, and leaves
visible what was visible before. So an entry of a table is that of the left branch alone, or else
that of the right one; a column plays the roles, and a notice is given, of either branch alone; and
if the branches change places, that makes a difference only to the order of what is listed and to
the alias, spelling or schema that comes first. -/
theorem SetExpr.walk_union (r : Reach) (visible : List TableUse) :
    ∃ found : SetExpr → Findings, ∀ (quantifier : String) (left right : SetExpr) (f : Footprint),
      let alone (e : SetExpr) := (e.branchWalk r ⟨f, visible⟩).footprint
      let union (a b : SetExpr) := (operation .union quantifier a b).walk r ⟨f, visible⟩
      let both := (union left right).footprint
      alone left = f.add (found left) ∧ alone right = f.add (found right) ∧
      union left right = ⟨f.add (found left ++ found right), visible⟩ ∧
      (∀ id, both.tables.find? (·.identity == id) =
        ((alone left).tables.find? (·.identity == id)).or
          ((alone right).tables.find? (·.identity == id))) ∧
      (∀ role key, both.Plays role key ↔
        (alone left).Plays role key ∨ (alone right).Plays role key) ∧
      (∀ n, n ∈ both.notices ↔ n ∈ (alone left).notices ∨ n ∈ (alone right).notices) ∧
      both.SameFindings (union right left).footprint := by
  choose found finds using fun e : SetExpr ↦ e.exists_finds_branch r visible
  refine ⟨found, fun quantifier left right f ↦ ?_⟩
  intro alone union both
  have first (e : SetExpr) : alone e = f.add (found e) :=
    congrArg Scope.footprint ((finds e).eq f)
  have walked (a b : SetExpr) : union a b = ⟨f.add (found a ++ found b), visible⟩ :=
    calc union a b
        = b.branchWalk r (a.branchWalk r ⟨f, visible⟩) := rfl
      _ = b.branchWalk r ⟨f.add (found a), visible⟩ := by rw [(finds a).eq, List.append_nil]
      _ = ⟨(f.add (found a)).add (found b), visible⟩ := by rw [(finds b).eq, List.append_nil]
      _ = ⟨f.add (found a ++ found b), visible⟩ := by rw [f.add_append]
  have added : both = f.add (found left ++ found right) :=
    congrArg Scope.footprint (walked left right)
  refine ⟨first left, first right, walked left right, ?_, ?_, ?_, ?_⟩
  · intro id
    have entry (c : Findings) : (f.add c).tables.find? (·.identity == id) =
        (f.tables.find? (·.identity == id)).or (c.tables.find? (·.identity == id)) :=
      TableUse.find?_insertAll f.tables c.tables id
    rw [added, first, first, entry, entry, entry, Findings.tables_append, List.find?_append]
    cases f.tables.find? (·.identity == id) with
    | none => rfl
    | some t => rfl
  · intro role key
    rw [added, first, first, Footprint.plays_add, Footprint.plays_add, Footprint.plays_add,
      Findings.columns_append, ColumnUse.playing_append]
    tauto
  · intro n
    rw [added, first, first, Footprint.mem_notices_add, Footprint.mem_notices_add,
      Footprint.mem_notices_add, Findings.notices_append, List.mem_append]
    tauto
  · rw [added, walked]
    exact f.sameFindings_add_comm (finds left).fresh (finds right).fresh

/-- In `SELECT 1 FROM s.t UNION SELECT 1 FROM r.t` the table of the right branch is not listed,
since it shares its entry with the one of the left branch. -/
theorem SetExpr.union_tables_of_one_name :
    let branch (schema : String) : SetExpr :=
      (Query.plain [.expr (.constant "1")] [.named [⟨schema, none⟩, ⟨"t", none⟩]]).body
    let union : SetExpr := .operation .union "" (branch "s") (branch "r")
    let r : Reach := ⟨[], 0, 9⟩
    let s := Scope.start .select ""
    ⟨"t", none, some "r"⟩ ∈ ((branch "r").branchWalk r s).footprint.tables ∧
      ⟨"t", none, some "r"⟩ ∉ (union.walk r s).footprint.tables := by
  decide +kernel

end Sql

end SqlFootprint
