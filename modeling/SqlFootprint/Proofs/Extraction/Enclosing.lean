import SqlFootprint.Proofs.Extraction.Composition
import SqlFootprint.Proofs.Sql.Qualifiers

/-!
# What a nested query sees of the queries around it

A query inside another one looks up its qualifiers among the relations around it, and does nothing
else with them. So two lists of relations that answer alike to each of its qualifiers are the same
to it: `Query.footprint_congr`. In particular relations that fit none of its qualifiers might as
well not be there.
-/

namespace SqlFootprint

namespace TableUse

/-- Asked for any of some names, two lists of relations give the same answers, among their aliases
as well as among their names. -/
def SameAnswers (names : List String) (xs ys : List TableUse) : Prop :=
  ∀ name ∈ names, xs.find? (·.hasAlias name) = ys.find? (·.hasAlias name) ∧
    xs.find? (·.hasName name) = ys.find? (·.hasName name)

/-- A relation has one of some names for its name or its alias. -/
def fitsAny (names : List String) (t : TableUse) : Bool :=
  names.any fun name ↦ t.hasAlias name || t.hasName name

namespace SameAnswers

variable {names names' : List String} {xs ys : List TableUse}

/-- Relations that are asked before make no difference. -/
theorem append (h : SameAnswers names xs ys) (zs : List TableUse) :
    SameAnswers names (zs ++ xs) (zs ++ ys) := by
  intro name hn
  obtain ⟨aliases, named⟩ := h name hn
  simp only [List.find?_append, aliases, named, and_self]

theorem find?_eq (h : SameAnswers names xs ys) {name : String} (hn : name ∈ names) :
    find? xs name = find? ys name := by
  obtain ⟨aliases, named⟩ := h name hn
  rw [find?, find?, aliases, named]

theorem left (h : SameAnswers (names ++ names') xs ys) : SameAnswers names xs ys :=
  fun name hn ↦ h name (List.mem_append_left names' hn)

theorem right (h : SameAnswers (names ++ names') xs ys) : SameAnswers names' xs ys :=
  fun name hn ↦ h name (List.mem_append_right names hn)

end SameAnswers

/-- Relations that fit no name are never an answer. -/
theorem sameAnswers_filter (names : List String) (xs : List TableUse) :
    SameAnswers names xs (xs.filter (fitsAny names)) := by
  intro name hn
  have kept (p : TableUse → Bool) (hp : ∀ t, p t → t.hasAlias name || t.hasName name) :
      xs.find? p = (xs.filter (fitsAny names)).find? p := by
    have fits (t : TableUse) (ht : p t) : t.fitsAny names :=
      List.any_eq_true.2 ⟨name, hn, hp t ht⟩
    rw [List.find?_filter]
    refine congrArg (List.find? · xs) (funext fun t ↦ ?_)
    cases ht : p t with
    | false => simp
    | true => simp [fits t ht]
  refine ⟨kept _ fun t ht ↦ ?_, kept _ fun t ht ↦ ?_⟩
  · rw [ht, Bool.true_or]
  · rw [ht, Bool.or_true]

end TableUse

open TableUse (SameAnswers)

namespace Walk

/-- Of the relations around a query, a walk heeds only what they answer to some names. -/
def Heeds (names : List String) (w : Walk) : Prop :=
  ∀ ⦃outer outer' : List TableUse⦄, SameAnswers names outer outer' →
    ∀ depth limit s, w ⟨outer, depth, limit⟩ s = w ⟨outer', depth, limit⟩ s

namespace Heeds

variable {names names' : List String} {v w : Walk}

theorem congr (h : Heeds names v) (e : ∀ r s, v r s = w r s) : Heeds names w := by
  have same : v = w := funext fun r ↦ funext (e r)
  rwa [← same]

/-- A change that does not depend on what is around. -/
theorem edit (names : List String) (change : Scope → Scope) : Heeds names fun _ s ↦ change s :=
  fun _ _ _ _ _ _ ↦ rfl

theorem skip (names : List String) : Heeds names .skip :=
  edit names id

theorem unsupported (names : List String) (message : String) :
    Heeds names (.unsupported message) :=
  edit names _

theorem register (names : List String) (t : TableUse) : Heeds names (.register t) :=
  edit names _

theorem andThen (h : Heeds names v) (k : Heeds names' w) :
    Heeds (names ++ names') (v.andThen w) := by
  intro outer outer' agree depth limit s
  rw [Walk.andThen, Walk.andThen, h agree.left, k agree.right]

/-- A walk that heeds nothing may come last. -/
theorem andThen_nil (h : Heeds names v) (k : Heeds [] w) : Heeds names (v.andThen w) := by
  have both := h.andThen k
  rwa [List.append_nil] at both

theorem cons {ws : List Walk} (h : Heeds names w) (k : Heeds names' (.all ws)) :
    Heeds (names ++ names') (.all (w :: ws)) :=
  h.andThen k

/-- A walk that heeds nothing may come first. -/
theorem cons_nil {ws : List Walk} (h : Heeds [] w) (k : Heeds names (.all ws)) :
    Heeds names (.all (w :: ws)) :=
  h.andThen k

theorem single (h : Heeds names w) : Heeds names (.all [w]) :=
  h.andThen_nil (.skip [])

theorem pair (h : Heeds names v) (k : Heeds names' w) : Heeds (names ++ names') (.all [v, w]) :=
  h.cons k.single

/-- What a qualifier means is all that a reference asks for. -/
theorem recordRef (c : ColumnRef) (role : Role) (aliasName : Option String) :
    Heeds c.qualifier.toList (.recordRef c role aliasName) := by
  intro outer outer' agree depth limit s
  cases hq : c.qualifier with
  | none => rw [Walk.recordRef, Walk.recordRef, hq, Option.map_none, Option.map_none]
  | some q =>
    have answers : TableUse.find? outer q = TableUse.find? outer' q :=
      agree.find?_eq (by rw [hq]; exact List.mem_singleton_self q)
    have meant : s.resolve outer q = s.resolve outer' q := by
      rw [Scope.resolve, Scope.resolve, answers]
    rw [Walk.recordRef, Walk.recordRef, hq, Option.map_some, Option.map_some, meant]

theorem deeper (what : String) (h : Heeds names w) : Heeds names (.deeper what w) := by
  intro outer outer' agree depth limit s
  rw [Walk.deeper, Walk.deeper, h agree]

theorem branch (h : Heeds names w) : Heeds names w.branch := by
  intro outer outer' agree depth limit s
  rw [Walk.branch, Walk.branch, h agree]

theorem negated (h : Heeds names w) : Heeds names w.negated := by
  intro outer outer' agree depth limit s
  rw [Walk.negated, Walk.negated, h agree]

/-- For a nested query the relations of this one come before those around it. -/
theorem nested (kind : StatementKind) (text : String) (keep : Footprint → Footprint → Footprint)
    (h : Heeds names w) : Heeds names (.nested kind text w keep) := by
  intro outer outer' agree depth limit s
  have inside := h (agree.append s.visible.reverse) depth limit (.start kind text)
  rw [Walk.nested, Walk.nested]
  simp only [inside]

/-- Sides of edges are looked up among the relations of the query itself. -/
theorem joinOn (kind : JoinKind) (left right : Option String) (on : Sql.Expr)
    (h : Heeds names w) : Heeds names (Sql.joinOn kind left right on w) := by
  intro outer outer' agree depth limit s
  rw [Sql.joinOn, Sql.joinOn, h agree]

end Heeds

end Walk

open Walk (Heeds)

theorem Mode.leaf_heeds (m : Mode) (e : Sql.Expr) : Heeds [] (m.leaf e) :=
  fun _ _ _ _ _ _ ↦ rfl

namespace Sql

/-! ## Expressions and queries -/

theorem selectWildcard_heeds (qualifier : Option String) :
    Heeds qualifier.toList fun r s ↦ selectWildcard (qualifier.map (s.resolve r.outer)) s :=
  .recordRef ⟨qualifier, "*"⟩ .selected none

mutual

theorem Expr.walk_heeds (m : Mode) : ∀ e : Expr, Heeds e.qualifiers (e.walk m)
  | .binary left .and right => .pair (left.walk_heeds m) (right.walk_heeds m)
  | .binary left .or right => .pair (left.walk_heeds m) (right.walk_heeds m)
  | .column path name =>
    .deeper _ (.recordRef ⟨ObjectName.qualifier? path, name.text⟩ m.role none)
  | .constant _ => .deeper _ (.skip [])
  | .binary left (.compare _) right =>
    .deeper _ (.cons_nil (m.leaf_heeds _)
      (.pair (left.walk_heeds m.operand) (right.walk_heeds m.operand)))
  | .binary left (.other _) right =>
    .deeper _ (.pair (left.walk_heeds m.operand) (right.walk_heeds m.operand))
  | .unary .not operand => by
    refine .deeper _ ?_
    split
    · exact (operand.walk_heeds m).negated
    · exact operand.walk_heeds m
  | .unary (.before _) operand => .deeper _ (operand.walk_heeds m)
  | .unary (.after _) operand => .deeper _ (operand.walk_heeds m)
  | .nested inner => .deeper _ (inner.walk_heeds m)
  | .cast _ operand _ _ => .deeper _ (operand.walk_heeds m)
  | .nullTest operand _ =>
    .deeper _ (.cons_nil (m.leaf_heeds _) (operand.walk_heeds m.operand).single)
  | .distinctTest left _ right =>
    .deeper _ (.cons_nil (m.leaf_heeds _)
      (.pair (left.walk_heeds m.operand) (right.walk_heeds m.operand)))
  | .quantified left _ _ right =>
    .deeper _ (.cons_nil (m.leaf_heeds _)
      (.pair (left.walk_heeds m.operand) (right.walk_heeds m.operand)))
  | .between operand _ low high =>
    .deeper _ (.cons_nil (m.leaf_heeds _) (.cons (operand.walk_heeds m.operand)
      (.pair (low.walk_heeds .mention) (high.walk_heeds .mention))))
  | .inList operand _ items =>
    .deeper _ (.cons_nil (m.leaf_heeds _)
      (.pair (operand.walk_heeds m.operand) (walkExprs_heeds .mention items)))
  | .inQuery operand _ query =>
    .deeper _ (.pair (operand.walk_heeds m.operand) (.nested _ _ _ query.walk_heeds))
  | .pattern _ operand _ _ against _ => by
    refine .deeper _ (.cons_nil (m.leaf_heeds _) (.cons_nil ?_
      (.pair (operand.walk_heeds m.operand) (against.walk_heeds .mention))))
    split
    · exact .unsupported [] _
    · exact .skip []
  | .existsQuery _ query => .deeper _ (.nested _ _ _ query.walk_heeds)
  | .subquery query => .deeper _ (.nested _ _ _ query.walk_heeds)
  | .call _ _ arguments _ filter _ window =>
    .deeper _ (.cons (arguments.walk_heeds m.operand)
      (.pair (walkOption_heeds m.operand filter) (window.walk_heeds m.operand)))
  | .braced call => call.walk_heeds m
  | .cases operand conditions results otherwise =>
    .deeper _ (.cons (walkOption_heeds m.operand operand)
      (.cons (walkExprs_heeds m.operand conditions)
        (.pair (walkExprs_heeds m.operand results) (walkOption_heeds m.operand otherwise))))
  | .trim _ what operand characters =>
    .deeper _ (.cons (operand.walk_heeds m.operand)
      (.pair (walkOption_heeds m.operand what) (walkExprs_heeds m.operand characters)))
  | .groupingSets parts =>
    .deeper _ (.cons_nil (.unsupported [] _) (walkPieces_heeds m.operand parts).single)
  | .template parts => .deeper _ (walkPieces_heeds m.operand parts)
  | .raw _ => .deeper _ (.skip [])

theorem walkExprs_heeds (m : Mode) : ∀ es : List Expr,
    Heeds (qualifiersOfExprs es) (walkExprs m es)
  | [] => .skip []
  | e :: es => .pair (e.walk_heeds m) (walkExprs_heeds m es)

theorem walkOption_heeds (m : Mode) : ∀ e : Option Expr,
    Heeds (qualifiersOfOption e) (walkOption m e)
  | none => .skip []
  | some e => e.walk_heeds m

theorem walkPieces_heeds (m : Mode) : ∀ ps : List Piece,
    Heeds (qualifiersOfPieces ps) (walkPieces m ps)
  | [] => .skip []
  | .expr e :: ps => .pair (e.walk_heeds m) (walkPieces_heeds m ps)
  | .text _ :: ps => walkPieces_heeds m ps
  | .query _ :: ps => walkPieces_heeds m ps
  | .table _ :: ps => walkPieces_heeds m ps

theorem Args.walk_heeds (m : Mode) : ∀ as : Args, Heeds as.qualifiers (as.walk m)
  | .none => .skip []
  | .query q => .nested _ _ _ q.walk_heeds
  | .list _ items _ => walkArgs_heeds m items

theorem walkArgs_heeds (m : Mode) : ∀ as : List Arg, Heeds (qualifiersOfArgs as) (walkArgs m as)
  | [] => .skip []
  | a :: as => .pair (a.walk_heeds m) (walkArgs_heeds m as)

theorem Arg.walk_heeds (m : Mode) : ∀ a : Arg, Heeds a.qualifiers (a.walk m)
  | .value e => e.walk_heeds m
  | .wildcard _ => .skip []
  | .named _ _ (.value e) => e.walk_heeds m
  | .named _ _ (.wildcard _) => .skip []
  | .named _ _ (.named _ _ _) => .skip []
  | .named _ _ (.keyed _ _ _) => .skip []
  | .keyed _ _ _ => .skip []

theorem Window.walk_heeds (m : Mode) : ∀ w : Window, Heeds w.qualifiers (w.walk m)
  | .none => .skip []
  | .named _ => .skip []
  | .spec _ partition order frame => by
    have framed : Heeds [] (if frame.isEmpty then .skip
        else .unsupported "window frames (ROWS / RANGE) are outside the supported grammar") := by
      split
      · exact .skip []
      · exact .unsupported [] _
    rw [Window.qualifiers, Window.walk]
    exact .cons (walkExprs_heeds m partition) ((walkKeys_heeds m order).andThen_nil framed.single)

theorem walkKeys_heeds (m : Mode) : ∀ ks : List OrderKey,
    Heeds (qualifiersOfKeys ks) (walkKeys m ks)
  | [] => .skip []
  | k :: ks => .pair (k.walk_heeds m) (walkKeys_heeds m ks)

theorem OrderKey.walk_heeds (m : Mode) : ∀ k : OrderKey, Heeds k.qualifiers (k.walk m)
  | .mk expr _ => expr.walk_heeds m

theorem Query.walk_heeds : ∀ q : Query, Heeds q.qualifiers q.walk
  | ⟨recursive, ctes, body, order, _⟩ => by
    refine .deeper _ (.cons_nil ?_ (.cons (walkCtes_heeds ctes)
      (.pair body.walk_heeds (walkKeys_heeds _ order))))
    split
    · exact .unsupported [] _
    · exact .skip []

theorem walkCtes_heeds : ∀ cs : List Cte, Heeds (qualifiersOfCtes cs) (walkCtes cs)
  | [] => .skip []
  | c :: cs => .pair c.walk_heeds (walkCtes_heeds cs)

theorem Cte.walk_heeds : ∀ c : Cte, Heeds c.qualifiers c.walk
  | ⟨aliasName, _, query, _⟩ => by
    have named : Heeds [] (.register aliasName.toTableUse) := .register [] _
    rw [Cte.qualifiers, Cte.walk]
    exact (Heeds.nested _ _ _ query.walk_heeds).andThen_nil named.single

theorem SetExpr.walk_heeds : ∀ e : SetExpr, Heeds e.qualifiers e.walk
  | .select s => s.walk_heeds
  | .query q => q.walk_heeds
  | .operation .union _ left right =>
    .pair (left.walk_heeds.deeper _).branch (right.walk_heeds.deeper _).branch
  | .operation .except _ _ _ => .unsupported _ _
  | .operation .intersect _ _ _ => .unsupported _ _
  | .values _ => .skip []
  | .insert _ => .skip []
  | .update _ => .skip []
  | .other _ => .skip []

theorem Select.walk_heeds : ∀ s : Select, Heeds s.qualifiers s.walk
  | ⟨_, projection, _, sources, _, filter, grouping, _, having, _⟩ => by
    rw [Select.qualifiers, Select.walk]
    exact .cons (walkSources_heeds sources) (.cons (walkItems_heeds projection)
      (.cons (walkOption_heeds _ filter)
        (.pair grouping.walk_heeds (walkOption_heeds _ having))))

theorem Grouping.walk_heeds : ∀ g : Grouping, Heeds g.qualifiers g.walk
  | .all _ => .skip []
  | .keys exprs _ => walkExprs_heeds _ exprs

theorem walkItems_heeds : ∀ is : List SelectItem, Heeds (qualifiersOfItems is) (walkItems is)
  | [] => .skip []
  | i :: is => .pair i.walk_heeds (walkItems_heeds is)

theorem SelectItem.walk_heeds : ∀ i : SelectItem, Heeds i.qualifiers i.walk
  | .expr e => e.walk_heeds _
  | .aliased e aliasName => by
    have walked := e.walk_heeds ⟨.selected, false⟩
    rw [SelectItem.qualifiers, SelectItem.walk]
    cases h : e.columnRef? with
    | none => exact walked
    | some c =>
      rw [Expr.qualifiers_of_columnRef? h]
      exact .recordRef c .selected (some aliasName.text)
  | .wildcard _ => selectWildcard_heeds none
  | .qualifiedWildcard name _ =>
    (selectWildcard_heeds (ObjectName.qualifier? name)).congr fun r s ↦ by
      rw [SelectItem.walk, ObjectName.qualifier?, Option.map_map]
      rfl

theorem walkSources_heeds : ∀ ts : List TableWithJoins,
    Heeds (qualifiersOfSources ts) (walkSources ts)
  | [] => .skip []
  | t :: ts => .pair t.walk_heeds (walkSources_heeds ts)

theorem TableWithJoins.walk_heeds : ∀ t : TableWithJoins,
    Heeds t.qualifiers fun r s ↦ (t.walk r s).2
  | ⟨relation, joins⟩ => by
    have walked := relation.walk_heeds.andThen (walkJoins_heeds relation.owner? joins)
    exact walked.congr fun r s ↦ (TableWithJoins.scope_walk relation joins r s).symm

theorem walkJoins_heeds (left : Option String) : ∀ js : List Join,
    Heeds (qualifiersOfJoins js) (walkJoins left js)
  | [] => .skip []
  | ⟨global, relation, operator⟩ :: js => by
    have joined := operator.walk_heeds left relation.owner?
      (Join.render ⟨global, relation, operator⟩)
    have walked := relation.walk_heeds.andThen
      (joined.andThen (walkJoins_heeds relation.owner? js))
    exact walked.congr fun r s ↦ (walkJoins_cons left global relation operator js r s).symm

theorem JoinOperator.walk_heeds (left right : Option String) (text : String) :
    ∀ o : JoinOperator, Heeds o.qualifiers (o.walk left right text)
  | .inner c => c.walk_heeds .inner left right
  | .left c => c.walk_heeds .left left right
  | .right c => c.walk_heeds .right left right
  | .full c => c.walk_heeds .full left right
  | .cross => .skip []
  | .special _ _ _ => .unsupported _ _

theorem JoinConstraint.walk_heeds (kind : JoinKind) (left right : Option String) :
    ∀ c : JoinConstraint, Heeds c.qualifiers (c.walk kind left right)
  | .on e => .joinOn kind left right e (e.walk_heeds .mention)
  | .usingColumns _ => .unsupported [] _
  | .natural => .unsupported [] _
  | .none => .skip []

theorem TableFactor.walk_heeds : ∀ t : TableFactor, Heeds t.qualifiers fun r s ↦ (t.walk r s).2
  | .table _ _ _ _ => .register [] _
  | .derived _ query none => .nested _ _ _ query.walk_heeds
  | .derived _ query (some a) =>
    (Heeds.nested _ _ _ query.walk_heeds).andThen_nil (.register [] a.toTableUse)
  | .nestedJoin joined none => joined.walk_heeds
  | .nestedJoin joined (some a) => joined.walk_heeds.andThen_nil (.register [] a.toTableUse)
  | .special _ _ _ => .unsupported [] _

end

/-! ## Nested footprints -/

namespace Query

/-- Around a query, only the answers to its qualifiers count. -/
theorem footprint_congr {q : Query} {outer outer' : List TableUse}
    (agree : SameAnswers q.qualifiers outer outer') (kind : StatementKind) (depth limit : Nat) :
    q.footprint kind ⟨outer, depth, limit⟩ = q.footprint kind ⟨outer', depth, limit⟩ :=
  congrArg Scope.finish (q.walk_heeds agree depth limit _)

/-- If no relation around a query has a qualifier of it for its name or its alias, up to the case of
ASCII letters, then its footprint, with all that is inside, is that of the query on its own. -/
theorem footprint_of_unrelated {q : Query} {outer : List TableUse}
    (unrelated : ∀ t ∈ outer, ∀ qualifier ∈ q.qualifiers, ¬Text.sameName t.name qualifier ∧
      ∀ a ∈ t.aliasName, ¬Text.sameName a qualifier)
    (kind : StatementKind) (depth limit : Nat) :
    q.footprint kind ⟨outer, depth, limit⟩ = q.footprint kind ⟨[], depth, limit⟩ := by
  have none : outer.filter (TableUse.fitsAny q.qualifiers) = [] := by
    refine List.filter_eq_nil_iff.2 fun t ht fits ↦ ?_
    obtain ⟨qualifier, hq, fits⟩ := List.any_eq_true.1 fits
    obtain ⟨named, aliased⟩ := unrelated t ht qualifier hq
    rcases Bool.or_eq_true_iff.1 fits with h | h
    · obtain ⟨a, ha, same⟩ := (Option.any_eq_true _ _).1 h
      exact aliased a ha same
    · exact named h
  have agree := TableUse.sameAnswers_filter q.qualifiers outer
  rw [none] at agree
  exact footprint_congr agree kind depth limit

/-- In `SELECT v.a FROM t WHERE EXISTS (SELECT 1 FROM u WHERE u.b = v.c)` the relation `orders o`
around it is of no account, and `orders v` would be. -/
theorem footprint_of_unrelated_sample :
    let inner : Query := .plain [.expr (.constant "1")] [.named [⟨"u", none⟩]]
      (some (.binary (.column [⟨"u", none⟩] ⟨"b", none⟩) (.compare .eq)
        (.column [⟨"v", none⟩] ⟨"c", none⟩)))
    let q : Query := .plain [.expr (.column [⟨"v", none⟩] ⟨"a", none⟩)] [.named [⟨"t", none⟩]]
      (some (.existsQuery false inner))
    let outer : List TableUse := [⟨"orders", some "o", none⟩]
    q.qualifiers = ["v", "u", "v"] ∧
    (∀ t ∈ outer, ∀ qualifier ∈ q.qualifiers, ¬Text.sameName t.name qualifier ∧
      ∀ a ∈ t.aliasName, ¬Text.sameName a qualifier) ∧
    q.footprint .select ⟨outer, 1, 9⟩ = q.footprint .select ⟨[], 1, 9⟩ ∧
    (q.footprint .select ⟨[⟨"orders", some "v", none⟩], 1, 9⟩).columns ≠
      (q.footprint .select ⟨[], 1, 9⟩).columns := by
  intro inner q outer
  have unrelated : ∀ t ∈ outer, ∀ qualifier ∈ q.qualifiers, ¬Text.sameName t.name qualifier ∧
      ∀ a ∈ t.aliasName, ¬Text.sameName a qualifier := by
    decide +kernel
  exact ⟨by decide +kernel, unrelated, footprint_of_unrelated unrelated .select 1 9,
    by decide +kernel⟩

end Query

end Sql

end SqlFootprint
