import SqlFootprint.Proofs.Extraction.Composition
import SqlFootprint.Proofs.Sql.Outline

/-!
# What a footprint says of its own query

The joins, conditions and notices of a footprint are those of the query or statement that it is of,
and none of them come from queries inside: they are the same for the outline, in which these are
mere texts. Two walks are `Alike` if they do not differ in this respect, and the walk of everything
that has an outline is like that of the outline.
-/

namespace SqlFootprint

/-- Two footprints do not differ in what they say of their own query. -/
structure Footprint.SameOwn (f g : Footprint) : Prop where
  joins : f.joins = g.joins
  conditions : f.conditions = g.conditions
  notices : f.notices = g.notices

namespace Scope

/-- Two scopes agree in the relations of their query and in what they say of it. -/
structure Agree (s t : Scope) : Prop where
  visible : s.visible = t.visible
  own : s.footprint.SameOwn t.footprint

namespace Agree

variable {s t : Scope}

theorem start (kind kind' : StatementKind) (text text' : String) :
    (Scope.start kind text).Agree (.start kind' text') :=
  ⟨rfl, rfl, rfl, rfl⟩

theorem note (h : s.Agree t) (n : Notice) : (s.edit (·.note n)).Agree (t.edit (·.note n)) :=
  ⟨h.visible, h.own.joins, h.own.conditions,
    congrArg (fun ns ↦ if ns.contains n then ns else ns ++ [n]) h.own.notices⟩

/-- Tables, columns and nested footprints are not of the query's own. -/
theorem edit (h : s.Agree t) {change change' : Footprint → Footprint}
    (left : ∀ f, (change f).SameOwn f) (right : ∀ f, (change' f).SameOwn f) :
    (s.edit change).Agree (t.edit change') where
  visible := h.visible
  own :=
    { joins := ((left _).joins.trans h.own.joins).trans (right _).joins.symm
      conditions := ((left _).conditions.trans h.own.conditions).trans (right _).conditions.symm
      notices := ((left _).notices.trans h.own.notices).trans (right _).notices.symm }

theorem record (h : s.Agree t) (c d : ColumnUse) :
    (s.edit (·.record c)).Agree (t.edit (·.record d)) :=
  h.edit (fun _ ↦ ⟨rfl, rfl, rfl⟩) (fun _ ↦ ⟨rfl, rfl, rfl⟩)

theorem register (h : s.Agree t) (u : TableUse) : (s.register u).Agree (t.register u) :=
  ⟨congrArg (· ++ [u]) h.visible, h.own.joins, h.own.conditions, h.own.notices⟩

theorem recordEdge (h : s.Agree t) (e : JoinEdge) :
    (Sql.recordEdge s e).Agree (Sql.recordEdge t e) :=
  ⟨h.visible, congrArg (· ++ [e]) h.own.joins, h.own.conditions, h.own.notices⟩

theorem joinEdge?_eq (h : s.Agree t) (kind : JoinKind) (left right : Option String)
    (on : Sql.Expr) : Sql.joinEdge? s kind left right on = Sql.joinEdge? t kind left right on := by
  have side (c : ColumnRef) (relation : Option String) :
      Sql.sideTable? s c relation = Sql.sideTable? t c relation := by
    unfold Sql.sideTable? ownTable?
    rw [h.visible]
  simp only [Sql.joinEdge?, side]

end Agree

end Scope

namespace Walk

/-- Two walks do the same to what a footprint says of its own query. -/
def Alike (v w : Walk) : Prop :=
  ∀ r s t, Scope.Agree s t → (v r s).Agree (w r t)

namespace Alike

variable {v w : Walk}

theorem skip : Alike .skip .skip := fun _ _ _ h ↦ h

theorem cons {vs ws : List Walk} (h : Alike v w) (k : Alike (.all vs) (.all ws)) :
    Alike (.all (v :: vs)) (.all (w :: ws)) :=
  fun r s t agree ↦ k r _ _ (h r s t agree)

theorem pair {v' w' : Walk} (h : Alike v w) (k : Alike v' w') :
    Alike (.all [v, v']) (.all [w, w']) :=
  h.cons (k.cons skip)

theorem all_map {α : Type} {walk walk' : α → Walk} (h : ∀ x, Alike (walk x) (walk' x))
    (xs : List α) : Alike (.all (xs.map walk)) (.all (xs.map walk')) := by
  induction xs with
  | nil => exact skip
  | cons x xs ih => exact (h x).cons ih

theorem unsupported (message : String) : Alike (.unsupported message) (.unsupported message) :=
  fun _ _ _ h ↦ h.note _

theorem register (t : TableUse) : Alike (.register t) (.register t) :=
  fun _ _ _ h ↦ h.register t

theorem recordRef (c : ColumnRef) (role : Role) (aliasName : Option String) :
    Alike (.recordRef c role aliasName) (.recordRef c role aliasName) :=
  fun _ _ _ h ↦ h.record _ _

theorem leaf (m : Mode) (e : Sql.Expr) : Alike (m.leaf e) (m.leaf e.outline) := by
  intro r s t h
  unfold Mode.leaf
  rw [e.condition?_outline]
  split
  · split
    · exact ⟨h.visible, h.own.joins, congrArg (· ++ [_]) h.own.conditions, h.own.notices⟩
    · exact h
  · exact h

theorem deeper (what : String) (h : Alike v w) : Alike (.deeper what v) (.deeper what w) := by
  intro r s t agree
  rcases Nat.lt_or_ge r.depth r.limit with hd | hd
  · rw [deeper_of_lt hd, deeper_of_lt hd]
    exact h _ s t agree
  · rw [deeper_of_le hd, deeper_of_le hd]
    exact agree.note _

/-- Whatever a nested query is, it makes no difference to the query around it. -/
theorem nested (place : Place) (kind : StatementKind) (text text' : String) (v w : Walk) :
    Alike (.nested kind text v place.keep) (.nested kind text' w place.keep) := by
  have kept (child f : Footprint) : (place.keep (f.absorb child) child).SameOwn f := by
    cases place with
    | withClause => exact ⟨rfl, rfl, rfl⟩
    | elsewhere => exact ⟨rfl, rfl, rfl⟩
  intro r s t agree
  unfold Walk.nested
  split
  · exact agree.edit (kept _) (kept _)
  · exact agree.note _

theorem branch (h : Alike v w) : Alike v.branch w.branch := by
  intro r s t agree
  have walked := h r s t agree
  refine ⟨?_, walked.own⟩
  unfold Walk.branch
  dsimp only
  rw [walked.visible, agree.visible]

theorem negated (h : Alike v w) : Alike v.negated w.negated := by
  intro r s t agree
  have walked := h r s t agree
  refine ⟨walked.visible, walked.own.joins, ?_, walked.own.notices⟩
  unfold Walk.negated
  dsimp only [Scope.edit]
  rw [walked.own.conditions, agree.own.conditions]

theorem joinOn (kind : JoinKind) (left right : Option String) {on on' : Sql.Expr}
    (sides : on'.equiJoin? = on.equiJoin?) (text : on'.render = on.render) (h : Alike v w) :
    Alike (Sql.joinOn kind left right on v) (Sql.joinOn kind left right on' w) := by
  intro r s t agree
  have edge : Sql.joinEdge? t kind left right on' = Sql.joinEdge? s kind left right on := by
    rw [agree.joinEdge?_eq]
    unfold Sql.joinEdge?
    rw [sides, text]
  have message : Sql.noEdgeMessage on' = Sql.noEdgeMessage on := by
    unfold Sql.noEdgeMessage
    rw [sides, text]
  unfold Sql.joinOn
  rw [edge, message]
  split
  · exact agree.recordEdge _
  · exact h r _ _ (agree.note _)

end Alike

end Walk

namespace Sql

open Walk (Alike)

/-! ## Expressions -/

mutual

theorem Expr.walk_outline (m : Mode) : ∀ e : Expr, Alike (e.walk m) (e.outline.walk m)
  | .binary left .and right => .pair (left.walk_outline m) (right.walk_outline m)
  | .binary left .or right => .pair (left.walk_outline m) (right.walk_outline m)
  | .column _ _ => .deeper _ (.recordRef _ _ _)
  | .constant _ => .deeper _ .skip
  | .binary left (.compare _) right =>
    .deeper _ (.cons (.leaf m _)
      (.pair (left.walk_outline m.operand) (right.walk_outline m.operand)))
  | .binary left (.other _) right =>
    .deeper _ (.pair (left.walk_outline m.operand) (right.walk_outline m.operand))
  | .unary .not operand => by
    refine .deeper _ ?_
    split
    · exact (operand.walk_outline m).negated
    · exact operand.walk_outline m
  | .unary (.before _) operand => .deeper _ (operand.walk_outline m)
  | .unary (.after _) operand => .deeper _ (operand.walk_outline m)
  | .nested inner => .deeper _ (inner.walk_outline m)
  | .cast _ operand _ _ => .deeper _ (operand.walk_outline m)
  | .nullTest operand _ => .deeper _ (.pair (.leaf m _) (operand.walk_outline m.operand))
  | .distinctTest left _ right =>
    .deeper _ (.cons (.leaf m _)
      (.pair (left.walk_outline m.operand) (right.walk_outline m.operand)))
  | .quantified left _ _ right =>
    .deeper _ (.cons (.leaf m _)
      (.pair (left.walk_outline m.operand) (right.walk_outline m.operand)))
  | .between operand _ low high =>
    .deeper _ (.cons (.leaf m _) (.cons (operand.walk_outline m.operand)
      (.pair (low.walk_outline .mention) (high.walk_outline .mention))))
  | .inList operand _ items =>
    .deeper _ (.cons (.leaf m _)
      (.pair (operand.walk_outline m.operand) (walkExprs_outline .mention items)))
  | .inQuery operand _ _ =>
    .deeper _ (.pair (operand.walk_outline m.operand) (.nested .elsewhere _ _ _ _ _))
  | .pattern _ operand _ _ against _ => by
    refine .deeper _ (.cons (.leaf m _) (.cons ?_
      (.pair (operand.walk_outline m.operand) (against.walk_outline .mention))))
    split
    · exact .unsupported _
    · exact .skip
  | .existsQuery _ _ => .deeper _ (.nested .elsewhere _ _ _ _ _)
  | .subquery _ => .deeper _ (.nested .elsewhere _ _ _ _ _)
  | .call _ _ arguments _ filter _ window =>
    .deeper _ (.cons (arguments.walk_outline m.operand)
      (.pair (walkOption_outline m.operand filter) (window.walk_outline m.operand)))
  | .braced call => call.walk_outline m
  | .cases operand conditions results otherwise =>
    .deeper _ (.cons (walkOption_outline m.operand operand)
      (.cons (walkExprs_outline m.operand conditions)
        (.pair (walkExprs_outline m.operand results) (walkOption_outline m.operand otherwise))))
  | .trim _ what operand characters =>
    .deeper _ (.cons (operand.walk_outline m.operand)
      (.pair (walkOption_outline m.operand what) (walkExprs_outline m.operand characters)))
  | .groupingSets parts =>
    .deeper _ (.pair (.unsupported _) (walkPieces_outline m.operand parts))
  | .template parts => .deeper _ (walkPieces_outline m.operand parts)
  | .raw _ => .deeper _ .skip

theorem walkExprs_outline (m : Mode) : ∀ es : List Expr,
    Alike (walkExprs m es) (walkExprs m (outlineExprs es))
  | [] => .skip
  | e :: es => .pair (e.walk_outline m) (walkExprs_outline m es)

theorem walkOption_outline (m : Mode) : ∀ e : Option Expr,
    Alike (walkOption m e) (walkOption m (outlineOption e))
  | none => .skip
  | some e => e.walk_outline m

theorem walkPieces_outline (m : Mode) : ∀ ps : List Piece,
    Alike (walkPieces m ps) (walkPieces m (outlinePieces ps))
  | [] => .skip
  | .expr e :: ps => .pair (e.walk_outline m) (walkPieces_outline m ps)
  | .text _ :: ps => walkPieces_outline m ps
  | .query _ :: ps => walkPieces_outline m ps
  | .table _ :: ps => walkPieces_outline m ps

theorem Args.walk_outline (m : Mode) : ∀ as : Args, Alike (as.walk m) (as.outline.walk m)
  | .none => .skip
  | .query _ => .nested .elsewhere _ _ _ _ _
  | .list _ items _ => walkArgs_outline m items

theorem walkArgs_outline (m : Mode) : ∀ as : List Arg,
    Alike (walkArgs m as) (walkArgs m (outlineArgs as))
  | [] => .skip
  | a :: as => .pair (a.walk_outline m) (walkArgs_outline m as)

theorem Arg.walk_outline (m : Mode) : ∀ a : Arg, Alike (a.walk m) (a.outline.walk m)
  | .value e => e.walk_outline m
  | .wildcard _ => .skip
  | .named _ _ (.value e) => e.walk_outline m
  | .named _ _ (.wildcard _) => .skip
  | .named _ _ (.named _ _ _) => .skip
  | .named _ _ (.keyed _ _ _) => .skip
  | .keyed _ _ _ => .skip

theorem Window.walk_outline (m : Mode) : ∀ w : Window, Alike (w.walk m) (w.outline.walk m)
  | .none => .skip
  | .named _ => .skip
  | .spec _ partition order frame => by
    rw [Window.outline, Window.walk, Window.walk]
    refine .cons (walkExprs_outline m partition) (.pair (walkKeys_outline m order) ?_)
    split
    · exact .skip
    · exact .unsupported _

theorem walkKeys_outline (m : Mode) : ∀ ks : List OrderKey,
    Alike (walkKeys m ks) (walkKeys m (outlineKeys ks))
  | [] => .skip
  | k :: ks => .pair (k.walk_outline m) (walkKeys_outline m ks)

theorem OrderKey.walk_outline (m : Mode) : ∀ k : OrderKey, Alike (k.walk m) (k.outline.walk m)
  | .mk expr _ => expr.walk_outline m

end

/-! ## Sources -/

/-- The same for walks that tell the table which columns belong to, and tell the same. -/
def Alike.Telling (v w : Reach → Scope → Option String × Scope) : Prop :=
  ∀ r s t, Scope.Agree s t → (v r s).1 = (w r t).1 ∧ (v r s).2.Agree (w r t).2

theorem JoinConstraint.walk_outline (kind : JoinKind) (left right : Option String)
    (c : JoinConstraint) : Alike (c.walk kind left right) (c.outline.walk kind left right) := by
  cases c with
  | on e =>
    exact .joinOn kind left right e.equiJoin?_outline e.render_outline (e.walk_outline .mention)
  | usingColumns columns => exact .unsupported _
  | natural => exact .unsupported _
  | none => exact .skip

theorem JoinOperator.walk_outline (left right : Option String) (text : String)
    (o : JoinOperator) : Alike (o.walk left right text) (o.outline.walk left right text) := by
  cases o with
  | inner c => exact c.walk_outline .inner left right
  | left c => exact c.walk_outline .left left right
  | right c => exact c.walk_outline .right left right
  | full c => exact c.walk_outline .full left right
  | cross => exact .skip
  | special words matching c => exact .unsupported _

mutual

theorem TableFactor.walk_outline : ∀ t : TableFactor, Alike.Telling t.walk t.outline.walk
  | .table _ _ _ _ => fun _ _ _ h ↦ ⟨rfl, h.register _⟩
  | .derived _ _ none => fun r s t h ↦ ⟨rfl, Alike.nested .elsewhere _ _ _ _ _ r s t h⟩
  | .derived _ _ (some _) => fun r s t h ↦
    ⟨rfl, (Alike.nested .elsewhere _ _ _ _ _ r s t h).register _⟩
  | .nestedJoin joined none => joined.walk_outline
  | .nestedJoin joined (some _) => fun r s t h ↦ ⟨rfl, (joined.walk_outline r s t h).2.register _⟩
  | .special _ _ _ => fun _ _ _ h ↦ ⟨rfl, h.note _⟩

theorem TableWithJoins.walk_outline : ∀ t : TableWithJoins, Alike.Telling t.walk t.outline.walk
  | ⟨relation, joins⟩ => by
    intro r s t h
    obtain ⟨same, agree⟩ := relation.walk_outline r s t h
    have joined := walkJoins_outline (relation.outline.walk r t).1 joins r _ _ agree
    refine ⟨same, ?_⟩
    rw [TableWithJoins.outline, TableWithJoins.walk, TableWithJoins.walk]
    dsimp only
    rw [same]
    exact joined

theorem walkJoins_outline (left : Option String) : ∀ js : List Join,
    Alike (walkJoins left js) (walkJoins left (outlineJoins js))
  | [] => .skip
  | ⟨global, relation, operator⟩ :: js => by
    intro r s t h
    obtain ⟨same, agree⟩ := relation.walk_outline r s t h
    have text : Join.render ⟨global, relation.outline, operator.outline⟩ =
        Join.render ⟨global, relation, operator⟩ := Join.render_outline relation.render_outline
    have joined := operator.walk_outline left (relation.outline.walk r t).1
      (Join.render ⟨global, relation, operator⟩) r _ _ agree
    have rest := walkJoins_outline (relation.outline.walk r t).1 js r _ _ joined
    rw [outlineJoins, walkJoins, walkJoins, text]
    dsimp only
    rw [same]
    exact rest

end

theorem walkSources_outline (ts : List TableWithJoins) :
    Alike (walkSources ts) (walkSources (ts.map TableWithJoins.outline)) := by
  induction ts with
  | nil => exact .skip
  | cons t ts ih => exact .pair (fun r s u h ↦ (t.walk_outline r s u h).2) ih

/-! ## Queries -/

theorem SelectItem.walk_outline (i : SelectItem) : Alike i.walk i.outline.walk := by
  cases i with
  | expr e => exact e.walk_outline _
  | aliased e aliasName =>
    rw [SelectItem.outline, SelectItem.walk, SelectItem.walk, e.columnRef?_outline]
    split
    · exact .recordRef _ _ _
    · exact e.walk_outline _
  | wildcard options => exact fun _ _ _ h ↦ h.record _ _
  | qualifiedWildcard name options => exact fun _ _ _ h ↦ h.record _ _

theorem walkItems_outline (is : List SelectItem) :
    Alike (walkItems is) (walkItems (is.map SelectItem.outline)) := by
  induction is with
  | nil => exact .skip
  | cons i is ih => exact .pair i.walk_outline ih

theorem Grouping.walk_outline (g : Grouping) : Alike g.walk g.outline.walk := by
  cases g with
  | all modifiers => exact .skip
  | keys exprs modifiers => exact walkExprs_outline _ exprs

theorem Select.walk_outline (s : Select) : Alike s.walk s.outline.walk := by
  cases s
  rw [Select.outline, Select.walk, Select.walk]
  exact .cons (walkSources_outline _) (.cons (walkItems_outline _)
    (.cons (walkOption_outline _ _)
      (.pair (Grouping.walk_outline _) (walkOption_outline _ _))))

theorem Cte.walk_outline (c : Cte) : Alike c.walk c.outline.walk := by
  cases c
  exact .pair (.nested .withClause _ _ _ _ _) (.register _)

theorem walkCtes_outline (cs : List Cte) :
    Alike (walkCtes cs) (walkCtes (cs.map Cte.outline)) := by
  induction cs with
  | nil => exact .skip
  | cons c cs ih => exact .pair c.walk_outline ih

mutual

theorem Query.walk_outline : ∀ q : Query, Alike q.walk q.outline.walk
  | ⟨recursive, ctes, body, order, _⟩ => by
    refine .deeper _ (.cons ?_ (.cons (walkCtes_outline ctes)
      (.pair body.walk_outline (walkKeys_outline _ order))))
    split
    · exact .unsupported _
    · exact .skip

theorem SetExpr.walk_outline : ∀ e : SetExpr, Alike e.walk e.outline.walk
  | .select s => s.walk_outline
  | .query q => q.walk_outline
  | .operation .union _ left right =>
    .pair (left.walk_outline.deeper _).branch (right.walk_outline.deeper _).branch
  | .operation .except _ _ _ => .unsupported _
  | .operation .intersect _ _ _ => .unsupported _
  | .values _ => .skip
  | .insert _ => .skip
  | .update _ => .skip
  | .other _ => .skip

end

/-! ## Statements -/

theorem Insert.sourceWalk_outline (i : Insert) : Alike i.sourceWalk i.outline.sourceWalk := by
  unfold Insert.sourceWalk Insert.outline
  cases i.source with
  | none => exact .skip
  | some q =>
    cases hb : q.body with
    | values parts =>
      simp only [Option.map_some, hb]
      exact .skip
    | _ =>
      simp only [Option.map_some, hb]
      exact .nested .elsewhere _ _ _ _ _

theorem insertColumns_alike (table : String) (columns : List Ident) :
    let walk : Walk := fun _ s ↦ columns.foldl (fun s c ↦
      s.edit (·.record ⟨c.text, some table, none, .ofRole .modified, none, none⟩)) s
    Alike walk walk := by
  intro walk r s t h
  induction columns generalizing s t with
  | nil => exact h
  | cons c cs ih => exact ih _ _ (h.record _ _)

theorem Insert.walk_outline (i : Insert) : Alike i.walk i.outline.walk := by
  intro r s t h
  let target := i.table.toTableUse (i.aliasName.map Ident.text)
  have recorded := insertColumns_alike target.name i.columns r _ _ (h.register target)
  exact i.sourceWalk_outline r _ _ recorded

theorem assignColumn_alike (target : Option String) (name : ObjectName) :
    Alike (assignColumn target name) (assignColumn target name) := by
  intro r s t h
  unfold assignColumn
  split
  · exact h
  · exact h.record _ _

theorem Assignment.walk_outline (target : Option String) :
    ∀ a : Assignment, Alike (a.walk target) (a.outline.walk target)
  | .mk (.column name) value =>
    .pair (assignColumn_alike target name) (value.walk_outline .mention)
  | .mk (.tuple names) value =>
    .pair (.all_map (assignColumn_alike target) names) (value.walk_outline .mention)

theorem Update.walk_outline (u : Update) : Alike u.walk u.outline.walk := by
  intro r s t h
  obtain ⟨same, agree⟩ := u.table.walk_outline r s t h
  have assignments := Alike.all_map (Assignment.walk_outline (u.table.outline.walk r t).1)
    u.assignments
  rw [← Function.comp_def, ← List.map_map] at assignments
  have rest := assignments.pair (walkOption_outline .predicate u.filter) r _ _ agree
  rw [Update.walk, Update.walk]
  dsimp only
  rw [same]
  exact rest

theorem Delete.walk_outline (d : Delete) : Alike d.walk d.outline.walk :=
  .cons (walkSources_outline d.sources)
    (.pair (walkSources_outline d.others) (walkOption_outline _ d.filter))

theorem Statement.walk_outline : ∀ s : Statement, Alike s.walk s.outline.walk
  | .query q => q.walk_outline
  | .insert i => i.walk_outline
  | .update u => u.walk_outline
  | .delete d => d.walk_outline
  | .createTable _ => .skip
  | .other _ => .skip

/-- What the footprint of a query says of it, that of the outline says, too. -/
theorem Query.sameOwn_outline (q : Query) (kind : StatementKind) (r : Reach) :
    (q.footprint kind r).SameOwn (q.outline.footprint kind r) := by
  have own := (q.walk_outline r _ _ (.start kind kind q.render q.outline.render)).own
  exact ⟨own.joins, own.conditions, own.notices⟩

end Sql

namespace Footprint

theorem sameOwn_ofStatement (limit : Nat) (statement : Sql.Statement) (text : String) :
    (ofStatement limit statement text).SameOwn (ofStatement limit statement.outline text) := by
  have own := (statement.walk_outline ⟨[], 0, limit⟩ _ _
    (.start statement.kind statement.outline.kind text text)).own
  exact ⟨own.joins, own.conditions, own.notices⟩

end Footprint

end SqlFootprint
