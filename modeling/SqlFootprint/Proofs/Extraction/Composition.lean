import SqlFootprint.Proofs.Extraction.Growth
import SqlFootprint.Proofs.Footprint.Roles

/-!
# The walks of statements

Every statement is walked by a composed walk, and the relations that it enters are those of the
statement: `Statement.walk_composed`. What composed walks do is thereby known of all statements,
with no need to go through the syntax again.

A join names the relation on its left, which has been entered before. So the walk of a join is the
composed one only in a scope that knows this relation, which `Joining` accounts for.
-/

namespace SqlFootprint

namespace Role

/-! ## Roles and relations -/

theorem OffEdge.modified : Role.modified.OffEdge := nofun

theorem Reads.selected : Role.selected.Reads := ⟨nofun, nofun⟩

theorem Reads.filtered : Role.filtered.Reads := ⟨nofun, nofun⟩

theorem Reads.mentioned : Role.mentioned.Reads := ⟨nofun, nofun⟩

theorem Reads.operand {m : Mode} (h : m.role.Reads) : m.operand.role.Reads := h

end Role

theorem Scope.Knows.of_extends {s t : Scope} {relation : Option String} (h : s.Knows relation)
    (grown : s.footprint.Extends t.footprint) : t.Knows relation := by
  intro name hn
  obtain ⟨u, hu, same⟩ := h name hn
  exact ⟨u, grown.tables.subset hu, same⟩

theorem Scope.knows_register (s : Scope) (t : TableUse) : (s.register t).Knows (some t.name) := by
  rintro name ⟨⟩
  have listed : t.identity ∈ (TableUse.insert s.footprint.tables t).map TableUse.identity :=
    TableUse.mem_identity_insert.2 (.inr rfl)
  obtain ⟨u, hu, same⟩ := List.mem_map.1 listed
  exact ⟨u, hu, congrArg Prod.fst same⟩

/-- A nested footprint hands on the roles of its columns. -/
theorem Footprint.plays_keep_absorb {f child : Footprint} {role : Role} {key : String × String}
    (place : Place) : (place.keep (f.absorb child) child).Plays role key ↔
      f.Plays role key ∨ child.Plays role key := by
  cases place with
  | withClause => exact plays_absorb
  | elsewhere => exact plays_absorb

theorem Walk.Composed.offEdge {ts : List TableUse} {w : Walk} (h : Composed Role.Reads ts w) :
    Composed Role.OffEdge ts w :=
  h.mono fun _ ↦ And.left

namespace Sql

open Walk (Composed)

theorem selectWildcard_composed (qualifier : Option String) :
    Composed Role.Reads [] (fun r s ↦ selectWildcard (qualifier.map (s.resolve r.outer)) s) :=
  (Composed.use "*" none none qualifier .selected).congr fun r s ↦ by
    simp only [Walk.use, selectWildcard, Option.or_none]

mutual

/-- The table that the columns of a relation belong to. -/
def TableFactor.owner? : TableFactor → Option String
  | .table name _ aliasName _ => some (name.toTableUse (aliasName.map (·.name.text))).name
  | .derived _ _ aliasName => aliasName.map (·.name.text)
  | .nestedJoin joined aliasName => (aliasName.map (·.name.text)).or joined.owner?
  | .special _ _ _ => none

def TableWithJoins.owner? : TableWithJoins → Option String
  | ⟨relation, _⟩ => relation.owner?

end

/-- What the walk of a relation does: it enters relations, and tells the owner of the columns, which
is known from then on. -/
structure Entering (ts : List TableUse) (owner : Option String)
    (w : Reach → Scope → Option String × Scope) : Prop where
  owner_eq : ∀ r s, (w r s).1 = owner
  composed : Composed Role.Reads ts fun r s ↦ (w r s).2
  knows : ∀ r s, (w r s).2.Knows owner

/-- A walk that is composed as far as scopes are concerned that know some relations. -/
def Joining (relations : List (Option String)) (ts : List TableUse) (v : Walk) : Prop :=
  ∃ w, Composed Role.Reads ts w ∧ ∀ r s, (∀ o ∈ relations, s.Knows o) → v r s = w r s

theorem Joining.of_composed {ts : List TableUse} {w : Walk} (h : Composed Role.Reads ts w)
    (relations : List (Option String)) : Joining relations ts w :=
  ⟨w, h, fun _ _ _ ↦ rfl⟩

/-- The walk of a query, apart from the level that it takes. -/
def Query.Composed (q : Query) : Prop :=
  ∃ w, q.walk = .deeper "query" w ∧ Walk.Composed Role.Reads q.relations w

theorem Query.Composed.walk {q : Query} (h : q.Composed) :
    Walk.Composed Role.Reads q.relations q.walk := by
  obtain ⟨w, hw, hc⟩ := h
  rw [hw]
  exact hc.deeper "query"

theorem Query.Composed.nested {q : Query} (h : q.Composed) (place : Place) {roles : Role → Prop} :
    Walk.Composed roles q.relations (.nested place.kind q.render q.walk place.keep) := by
  obtain ⟨w, hw, hc⟩ := h
  have walked : Walk.Composed roles q.relations (.query place q.render w) := .query place q hw hc
  rw [hw]
  exact walked

/-! ## Queries and expressions -/

mutual

theorem Expr.walk_composed {m : Mode} (hm : m.role.Reads) : ∀ e : Expr,
    Composed Role.Reads e.relations (e.walk m)
  | .binary left .and right => .pair (left.walk_composed hm) (right.walk_composed hm)
  | .binary left .or right => .pair (left.walk_composed hm) (right.walk_composed hm)
  | .column _ _ => .deeper _ (.recordRef _ _ hm)
  | .constant _ => .deeper _ .skip
  | .binary left (.compare _) right =>
    .deeper _ (.cons_nil (m.leaf_composed _)
      (.pair (left.walk_composed hm.operand) (right.walk_composed hm.operand)))
  | .binary left (.other _) right =>
    .deeper _ (.pair (left.walk_composed hm.operand) (right.walk_composed hm.operand))
  | .unary .not operand => by
    refine .deeper _ ?_
    split
    · exact (operand.walk_composed hm).negated
    · exact operand.walk_composed hm
  | .unary (.before _) operand => .deeper _ (operand.walk_composed hm)
  | .unary (.after _) operand => .deeper _ (operand.walk_composed hm)
  | .nested inner => .deeper _ (inner.walk_composed hm)
  | .cast _ operand _ _ => .deeper _ (operand.walk_composed hm)
  | .nullTest operand _ =>
    .deeper _ (.cons_nil (m.leaf_composed _) (operand.walk_composed hm.operand).single)
  | .distinctTest left _ right =>
    .deeper _ (.cons_nil (m.leaf_composed _)
      (.pair (left.walk_composed hm.operand) (right.walk_composed hm.operand)))
  | .quantified left _ _ right =>
    .deeper _ (.cons_nil (m.leaf_composed _)
      (.pair (left.walk_composed hm.operand) (right.walk_composed hm.operand)))
  | .between operand _ low high =>
    .deeper _ (.cons_nil (m.leaf_composed _) (.cons (operand.walk_composed hm.operand)
      (.pair (low.walk_composed .mentioned) (high.walk_composed .mentioned))))
  | .inList operand _ items =>
    .deeper _ (.cons_nil (m.leaf_composed _) (.pair (operand.walk_composed hm.operand)
      (walkExprs_composed .mentioned items)))
  | .inQuery operand _ query =>
    .deeper _ (.pair (operand.walk_composed hm.operand)
      (query.walk_composed.nested .elsewhere))
  | .pattern kind operand _ _ against _ => by
    refine .deeper _ (.cons_nil (m.leaf_composed _) (.cons_nil ?_
      (.pair (operand.walk_composed hm.operand) (against.walk_composed .mentioned))))
    split
    · exact .unsupported [] _
    · exact .skip
  | .existsQuery _ query => .deeper _ (query.walk_composed.nested .elsewhere)
  | .subquery query => .deeper _ (query.walk_composed.nested .elsewhere)
  | .call _ _ arguments _ filter _ window =>
    .deeper _ (.cons (arguments.walk_composed hm.operand)
      (.pair (walkOption_composed hm.operand filter) (window.walk_composed hm.operand)))
  | .braced call => call.walk_composed hm
  | .cases operand conditions results otherwise =>
    .deeper _ (.cons (walkOption_composed hm.operand operand)
      (.cons (walkExprs_composed hm.operand conditions)
        (.pair (walkExprs_composed hm.operand results) (walkOption_composed hm.operand otherwise))))
  | .trim _ what operand characters =>
    .deeper _ (.cons (operand.walk_composed hm.operand)
      (.pair (walkOption_composed hm.operand what) (walkExprs_composed hm.operand characters)))
  | .groupingSets parts =>
    .deeper _ (.cons_nil (.unsupported [] _) (walkPieces_composed hm.operand parts).single)
  | .template parts => .deeper _ (walkPieces_composed hm.operand parts)
  | .raw _ => .deeper _ .skip

theorem walkExprs_composed {m : Mode} (hm : m.role.Reads) : ∀ es : List Expr,
    Composed Role.Reads (relationsOfExprs es) (walkExprs m es)
  | [] => .skip
  | e :: es => .pair (e.walk_composed hm) (walkExprs_composed hm es)

theorem walkOption_composed {m : Mode} (hm : m.role.Reads) : ∀ e : Option Expr,
    Composed Role.Reads (relationsOfOption e) (walkOption m e)
  | none => .skip
  | some e => e.walk_composed hm

theorem walkPieces_composed {m : Mode} (hm : m.role.Reads) : ∀ ps : List Piece,
    Composed Role.Reads (relationsOfPieces ps) (walkPieces m ps)
  | [] => .skip
  | .expr e :: ps => .pair (e.walk_composed hm) (walkPieces_composed hm ps)
  | .text _ :: ps => walkPieces_composed hm ps
  | .query _ :: ps => walkPieces_composed hm ps
  | .table _ :: ps => walkPieces_composed hm ps

theorem Args.walk_composed {m : Mode} (hm : m.role.Reads) : ∀ as : Args,
    Composed Role.Reads as.relations (as.walk m)
  | .none => .skip
  | .query q => q.walk_composed.nested .elsewhere
  | .list _ items _ => walkArgs_composed hm items

theorem walkArgs_composed {m : Mode} (hm : m.role.Reads) : ∀ as : List Arg,
    Composed Role.Reads (relationsOfArgs as) (walkArgs m as)
  | [] => .skip
  | a :: as => .pair (a.walk_composed hm) (walkArgs_composed hm as)

theorem Arg.walk_composed {m : Mode} (hm : m.role.Reads) : ∀ a : Arg,
    Composed Role.Reads a.relations (a.walk m)
  | .value e => e.walk_composed hm
  | .wildcard _ => .skip
  | .named _ _ (.value e) => e.walk_composed hm
  | .named _ _ (.wildcard _) => .skip
  | .named _ _ (.named _ _ _) => .skip
  | .named _ _ (.keyed _ _ _) => .skip
  | .keyed _ _ _ => .skip

theorem Window.walk_composed {m : Mode} (hm : m.role.Reads) : ∀ w : Window,
    Composed Role.Reads w.relations (w.walk m)
  | .none => .skip
  | .named _ => .skip
  | .spec _ partition order frame => by
    have frames : Composed Role.Reads [] (if frame.isEmpty then .skip
        else .unsupported "window frames (ROWS / RANGE) are outside the supported grammar") := by
      split
      · exact .skip
      · exact .unsupported [] _
    have rest := (walkKeys_composed hm order).pair frames
    rw [List.append_nil] at rest
    rw [Window.relations, Window.walk]
    exact .cons (walkExprs_composed hm partition) rest

theorem walkKeys_composed {m : Mode} (hm : m.role.Reads) : ∀ ks : List OrderKey,
    Composed Role.Reads (relationsOfKeys ks) (walkKeys m ks)
  | [] => .skip
  | k :: ks => .pair (k.walk_composed hm) (walkKeys_composed hm ks)

theorem OrderKey.walk_composed {m : Mode} (hm : m.role.Reads) : ∀ k : OrderKey,
    Composed Role.Reads k.relations (k.walk m)
  | .mk expr _ => expr.walk_composed hm

theorem Query.walk_composed : ∀ q : Query, q.Composed
  | ⟨recursive, ctes, body, order, _⟩ => by
    refine ⟨_, rfl, .cons_nil ?_ (.cons (walkCtes_composed ctes)
      (.pair body.walk_composed (walkKeys_composed .filtered order)))⟩
    split
    · exact .unsupported [] _
    · exact .skip

theorem walkCtes_composed : ∀ cs : List Cte, Composed Role.Reads (relationsOfCtes cs) (walkCtes cs)
  | [] => .skip
  | c :: cs => .pair c.walk_composed (walkCtes_composed cs)

theorem Cte.walk_composed : ∀ c : Cte, Composed Role.Reads c.relations c.walk
  | ⟨aliasName, _, query, _⟩ =>
    .pair (query.walk_composed.nested .withClause) (.register aliasName.toTableUse)

theorem SetExpr.walk_composed : ∀ e : SetExpr, Composed Role.Reads e.relations e.walk
  | .select s => s.walk_composed
  | .query q => q.walk_composed.walk
  | .operation .union _ left right =>
    .pair (left.walk_composed.deeper _).branch (right.walk_composed.deeper _).branch
  | .operation .except _ _ _ => .unsupported _ _
  | .operation .intersect _ _ _ => .unsupported _ _
  | .values _ => .skip
  | .insert _ => .skip
  | .update _ => .skip
  | .other _ => .skip

theorem Select.walk_composed : ∀ s : Select, Composed Role.Reads s.relations s.walk
  | ⟨_, projection, _, sources, _, filter, grouping, _, having, _⟩ => by
    rw [Select.relations, Select.walk]
    exact .cons (walkSources_composed sources) (.cons (walkItems_composed projection)
      (.cons (walkOption_composed .filtered filter)
        (.pair grouping.walk_composed (walkOption_composed .filtered having))))

theorem Grouping.walk_composed : ∀ g : Grouping, Composed Role.Reads g.relations g.walk
  | .all _ => .skip
  | .keys exprs _ => walkExprs_composed .filtered exprs

theorem walkItems_composed : ∀ is : List SelectItem,
    Composed Role.Reads (relationsOfItems is) (walkItems is)
  | [] => .skip
  | i :: is => .pair i.walk_composed (walkItems_composed is)

theorem SelectItem.walk_composed : ∀ i : SelectItem, Composed Role.Reads i.relations i.walk
  | .expr e => e.walk_composed .selected
  | .aliased e aliasName => by
    have walked := e.walk_composed (m := ⟨.selected, false⟩) .selected
    rw [SelectItem.relations, SelectItem.walk]
    cases h : e.columnRef? with
    | none => exact walked
    | some c =>
      rw [Expr.relations_of_columnRef? h]
      exact .recordRef c (some aliasName.text) .selected
  | .wildcard _ => selectWildcard_composed none
  | .qualifiedWildcard name _ =>
    (selectWildcard_composed (name.getLast?.map Ident.text)).congr fun r s ↦ by
      rw [SelectItem.walk, Option.map_map]
      rfl

theorem walkSources_composed : ∀ ts : List TableWithJoins,
    Composed Role.Reads (relationsOfSources ts) (walkSources ts)
  | [] => .skip
  | t :: ts => .pair t.walk_composed.composed (walkSources_composed ts)

theorem TableWithJoins.walk_composed : ∀ t : TableWithJoins,
    Entering t.relations t.owner? t.walk
  | ⟨relation, joins⟩ => by
    have first := relation.walk_composed
    obtain ⟨w, hw, same⟩ := walkJoins_composed relation.owner? joins
    have walked (r : Reach) (s : Scope) :
        (TableWithJoins.walk ⟨relation, joins⟩ r s).2 = w r (relation.walk r s).2 := by
      rw [← same r _ (List.forall_mem_singleton.2 (first.knows r s)), ← first.owner_eq r s]
      rfl
    refine ⟨first.owner_eq, (first.composed.andThen hw).congr fun r s ↦ (walked r s).symm, ?_⟩
    intro r s
    rw [walked]
    exact (first.knows r s).of_extends (hw.extends r _)

theorem walkJoins_composed (left : Option String) : ∀ js : List Join,
    Joining [left] (relationsOfJoins js) (walkJoins left js)
  | [] => .of_composed .skip _
  | ⟨global, relation, operator⟩ :: js => by
    have right := relation.walk_composed
    obtain ⟨v, hv, edge⟩ := operator.walk_composed left relation.owner?
      (Join.render ⟨global, relation, operator⟩)
    obtain ⟨w, hw, rest⟩ := walkJoins_composed relation.owner? js
    refine ⟨_, right.composed.andThen (hv.andThen hw), fun r s known ↦ ?_⟩
    -- What the join relies on is known after the relation on its right has been entered.
    have knowsLeft : (relation.walk r s).2.Knows left :=
      (known left List.mem_cons_self).of_extends (right.composed.extends r s)
    have knowsRight := right.knows r s
    have joined : operator.walk left relation.owner? (Join.render ⟨global, relation, operator⟩) r
        (relation.walk r s).2 = v r (relation.walk r s).2 := by
      refine edge r _ fun o ho ↦ ?_
      obtain rfl | rfl : o = left ∨ o = relation.owner? := by simpa using ho
      · exact knowsLeft
      · exact knowsRight
    calc walkJoins left (⟨global, relation, operator⟩ :: js) r s
        = walkJoins relation.owner? js r (operator.walk left relation.owner?
            (Join.render ⟨global, relation, operator⟩) r (relation.walk r s).2) := by
          rw [walkJoins, ← right.owner_eq r s]
      _ = walkJoins relation.owner? js r (v r (relation.walk r s).2) := by rw [joined]
      _ = w r (v r (relation.walk r s).2) :=
          rest r _ (List.forall_mem_singleton.2 (knowsRight.of_extends (hv.extends r _)))

theorem JoinOperator.walk_composed (left right : Option String) (text : String) :
    ∀ o : JoinOperator, Joining [left, right] o.relations (o.walk left right text)
  | .inner c => c.walk_composed .inner left right
  | .left c => c.walk_composed .left left right
  | .right c => c.walk_composed .right left right
  | .full c => c.walk_composed .full left right
  | .cross => .of_composed .skip _
  | .special _ _ _ => .of_composed (.unsupported _ _) _

theorem JoinConstraint.walk_composed (kind : JoinKind) (left right : Option String) :
    ∀ c : JoinConstraint, Joining [left, right] c.relations (c.walk kind left right)
  | .on e => by
    have walked := e.walk_composed (m := .mention) .mentioned
    refine ⟨_, .join kind left right e (fun h ↦ ?_) walked, ?_⟩
    · obtain ⟨p, hp⟩ := Option.isSome_iff_exists.1 h
      exact Expr.relations_of_equiJoin? hp
    · intro r s known
      rw [Walk.join, s.known?_eq (known left (by simp)), s.known?_eq (known right (by simp))]
      rfl
  | .usingColumns _ => .of_composed (.unsupported _ _) _
  | .natural => .of_composed (.unsupported _ _) _
  | .none => .of_composed .skip _

theorem TableFactor.walk_composed : ∀ t : TableFactor, Entering t.relations t.owner? t.walk
  | .table _ _ _ _ => ⟨fun _ _ ↦ rfl, .register _, fun _ s ↦ s.knows_register _⟩
  | .derived _ query none => by
    rw [TableFactor.relations, Option.toList_none, List.map_nil, List.append_nil]
    exact ⟨fun _ _ ↦ rfl, query.walk_composed.nested .elsewhere, fun _ _ ↦ nofun⟩
  | .derived _ query (some a) =>
    ⟨fun _ _ ↦ rfl, (query.walk_composed.nested .elsewhere).andThen (.register a.toTableUse),
      fun _ _ ↦ Scope.knows_register _ a.toTableUse⟩
  | .nestedJoin joined none => by
    have inner := joined.walk_composed
    rw [TableFactor.relations, Option.toList_none, List.map_nil, List.append_nil]
    exact ⟨inner.owner_eq, inner.composed, inner.knows⟩
  | .nestedJoin joined (some a) =>
    ⟨fun _ _ ↦ rfl, joined.walk_composed.composed.andThen (.register a.toTableUse),
      fun _ _ ↦ Scope.knows_register _ a.toTableUse⟩
  | .special _ _ _ => ⟨fun _ _ ↦ rfl, .unsupported _ _, fun _ _ ↦ nofun⟩

end

/-- The joins of an item of `FROM` are walked after its first relation, whose owner is on the left
of the first of them. -/
theorem TableWithJoins.scope_walk (relation : TableFactor) (joins : List Join) (r : Reach)
    (s : Scope) : (TableWithJoins.walk ⟨relation, joins⟩ r s).2 =
      walkJoins relation.owner? joins r (relation.walk r s).2 := by
  rw [← relation.walk_composed.owner_eq r s]
  rfl

theorem walkJoins_cons (left : Option String) (global : Bool) (relation : TableFactor)
    (operator : JoinOperator) (js : List Join) (r : Reach) (s : Scope) :
    walkJoins left (⟨global, relation, operator⟩ :: js) r s =
      walkJoins relation.owner? js r (operator.walk left relation.owner?
        (Join.render ⟨global, relation, operator⟩) r (relation.walk r s).2) := by
  rw [walkJoins, ← relation.walk_composed.owner_eq r s]

/-! ## Statements -/

/-- The columns of an insertion are recorded one by one. -/
theorem insertColumns_composed (table : String) (columns : List Ident) :
    Composed Role.OffEdge [] fun _ s ↦ columns.foldl (fun s c ↦
      s.edit (·.record ⟨c.text, some table, none, .ofRole .modified, none, none⟩)) s := by
  induction columns with
  | nil => exact .skip
  | cons c cs ih => exact (Composed.use c.text (some table) none none .modified).andThen ih

/-- The walk of the rows that are inserted. Rows that are written out are left alone. -/
def Insert.sourceWalk (i : Insert) : Walk := fun r s ↦
  match i.source with
  | none => s
  | some q =>
    match q.body with
    | .values _ => s
    | _ => Walk.nested .select q.render q.walk .addSubquery r s

theorem Insert.sourceWalk_composed (i : Insert) {roles : Role → Prop} :
    Composed roles i.sourceRelations i.sourceWalk := by
  unfold sourceRelations sourceWalk
  cases i.source with
  | none => exact .skip
  | some q =>
    have nested : Composed roles q.relations (.nested .select q.render q.walk .addSubquery) :=
      q.walk_composed.nested .elsewhere
    cases hb : q.body with
    | values _ =>
      simp only [hb]
      exact .skip
    | _ =>
      simp only [hb]
      exact nested

theorem Insert.walk_composed (i : Insert) : Composed Role.OffEdge i.relations i.walk :=
  (Composed.register _).andThen
    ((insertColumns_composed _ i.columns).andThen i.sourceWalk_composed)

theorem assignColumn_composed (target : Option String) (name : ObjectName) :
    Composed Role.OffEdge [] (assignColumn target name) := by
  cases hn : name.columnRef? with
  | none =>
    refine Composed.skip.congr fun r s ↦ ?_
    simp only [assignColumn, hn, Walk.skip]
  | some c =>
    cases hq : c.qualifier with
    | none =>
      refine (Composed.use c.column target none none .modified).congr fun r s ↦ ?_
      simp only [assignColumn, hn, hq, Walk.use, Option.map_none, Option.none_or]
    | some q =>
      refine (Composed.use c.column none none (some q) .modified).congr fun r s ↦ ?_
      simp only [assignColumn, hn, hq, Walk.use, Option.map_some, Option.some_or]

theorem Assignment.walk_composed (target : Option String) :
    ∀ a : Assignment, Composed Role.OffEdge a.relations (a.walk target)
  | .mk (.column name) value => by
    have walked := (value.walk_composed (m := .mention) .mentioned).offEdge
    rw [Assignment.walk]
    exact .cons_nil (assignColumn_composed target name) walked.single
  | .mk (.tuple names) value => by
    have walked := (value.walk_composed (m := .mention) .mentioned).offEdge
    rw [Assignment.walk]
    exact .cons_nil (.all_map_nil fun name _ ↦ assignColumn_composed target name) walked.single

theorem Update.walk_composed (u : Update) : Composed Role.OffEdge u.relations u.walk := by
  have table := u.table.walk_composed
  have assignments := Composed.all_map fun (a : Assignment) (_ : a ∈ u.assignments) ↦
    a.walk_composed u.table.owner?
  have filtered := (walkOption_composed (m := .predicate) .filtered u.filter).offEdge
  refine (table.composed.offEdge.andThen (assignments.pair filtered)).congr fun r s ↦ ?_
  rw [Update.walk, ← table.owner_eq r s]
  rfl

theorem Delete.walk_composed (d : Delete) : Composed Role.Reads d.relations d.walk :=
  .cons (walkSources_composed d.sources)
    (.pair (walkSources_composed d.others) (walkOption_composed .filtered d.filter))

/-- The walk of any statement is put together out of basic ones, and the relations that it enters
are those of the statement. -/
theorem Statement.walk_composed : ∀ s : Statement, Composed Role.OffEdge s.relations s.walk
  | .query q => q.walk_composed.walk.offEdge
  | .insert i => i.walk_composed
  | .update u => u.walk_composed
  | .delete d => d.walk_composed.offEdge
  | .createTable _ => .skip
  | .other _ => .skip

end Sql

end SqlFootprint
