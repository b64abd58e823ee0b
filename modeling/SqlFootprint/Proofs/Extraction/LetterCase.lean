import SqlFootprint.Proofs.Extraction.Composition
import SqlFootprint.Proofs.Footprint.Shape
import SqlFootprint.Proofs.Sql.LetterCase

/-!
# The case of references and the shape of a footprint

A statement and the same statement with its references in lower case are walked side by side. At
every point the two scopes hold the same relations, and footprints of one shape: a qualifier means
the same table in both, or stands for itself in both, so that columns come under the same keys and
equalities join the same tables.
-/

namespace SqlFootprint

open Text (foldAscii)

namespace TableUse

theorem hasAlias_foldAscii (t : TableUse) (qualifier : String) :
    t.hasAlias (foldAscii qualifier) = t.hasAlias qualifier := by
  simp only [hasAlias, Text.sameName, Text.foldAscii_foldAscii]

theorem hasName_foldAscii (t : TableUse) (qualifier : String) :
    t.hasName (foldAscii qualifier) = t.hasName qualifier := by
  simp only [hasName, Text.sameName, Text.foldAscii_foldAscii]

theorem find?_foldAscii (tables : List TableUse) (qualifier : String) :
    find? tables (foldAscii qualifier) = find? tables qualifier := by
  simp only [find?, hasAlias_foldAscii, hasName_foldAscii]

end TableUse

namespace Scope

/-- Two scopes hold the same relations and footprints of one shape. -/
structure SameShape (s t : Scope) : Prop where
  visible : s.visible = t.visible
  shape : s.footprint.shape = t.footprint.shape

namespace SameShape

variable {s t : Scope}

theorem start (kind : StatementKind) (text text' : String) :
    (Scope.start kind text).SameShape (.start kind text') :=
  ⟨rfl, by simp only [Scope.start, Footprint.shape_empty]⟩

theorem finish (h : s.SameShape t) : s.finish.shape = t.finish.shape := by
  rw [Scope.finish, Scope.finish, Footprint.shape_dedup, Footprint.shape_dedup, h.shape]

/-- Notices do not belong to the shape, whatever they say. -/
theorem note (h : s.SameShape t) (n n' : Notice) :
    (s.edit (·.note n)).SameShape (t.edit (·.note n')) :=
  ⟨h.visible, by
    simp only [Scope.edit, Footprint.shape_note, h.shape]⟩

theorem record (h : s.SameShape t) {c d : ColumnUse} (same : c.fold = d.fold) :
    (s.edit (·.record c)).SameShape (t.edit (·.record d)) :=
  ⟨h.visible, by simp only [Scope.edit, Footprint.shape_record, h.shape, same]⟩

theorem register (h : s.SameShape t) (u : TableUse) : (s.register u).SameShape (t.register u) :=
  ⟨congrArg (· ++ [u]) h.visible, by simp only [Scope.register, Footprint.shape_addTable, h.shape]⟩

theorem addCondition (h : s.SameShape t) (text text' : String) :
    (s.edit (·.addCondition text)).SameShape (t.edit (·.addCondition text')) :=
  ⟨h.visible, by simp only [Scope.edit, Footprint.shape_addCondition, h.shape]⟩

/-- A nested footprint is taken over with its shape. -/
theorem keep (h : s.SameShape t) (place : Place) {child child' : Footprint}
    (same : child.shape = child'.shape) :
    (s.edit fun f ↦ place.keep (f.absorb child) child).SameShape
      (t.edit fun f ↦ place.keep (f.absorb child') child') := by
  refine ⟨h.visible, ?_⟩
  cases place with
  | withClause =>
    simp only [Scope.edit, Place.keep, Footprint.shape_addCte, Footprint.shape_absorb, h.shape,
      same]
  | elsewhere =>
    simp only [Scope.edit, Place.keep, Footprint.shape_addSubquery, Footprint.shape_absorb,
      h.shape, same]

theorem recordEdge (h : s.SameShape t) {e e' : JoinEdge} (same : e.fold = e'.fold) :
    (Sql.recordEdge s e).SameShape (Sql.recordEdge t e') := by
  obtain ⟨kind, lt, rt, lc, rc, condition⟩ := e
  obtain ⟨kind', lt', rt', lc', rc', condition'⟩ := e'
  obtain ⟨rfl, rfl, rfl, left, right, -⟩ := JoinEdge.mk.inj same
  refine ⟨h.visible, ?_⟩
  simp only [Sql.recordEdge, Scope.edit, Footprint.shape_addJoin, Footprint.shape_record, h.shape,
    ColumnUse.fold, left, right, same]

theorem ownTable?_eq (h : s.SameShape t) (qualifier : String) :
    t.ownTable? (foldAscii qualifier) = s.ownTable? qualifier := by
  rw [ownTable?, ownTable?, h.visible, TableUse.find?_foldAscii]

/-- A qualifier means the same table, or stands for itself. -/
theorem resolve_eq (h : s.SameShape t) (outer : List TableUse) (qualifier : String) :
    foldAscii (t.resolve outer (foldAscii qualifier)) = foldAscii (s.resolve outer qualifier) := by
  rw [Scope.resolve, Scope.resolve, h.ownTable?_eq, TableUse.find?_foldAscii]
  split
  · rfl
  · exact Text.foldAscii_foldAscii qualifier

theorem map_resolve_eq (h : s.SameShape t) (outer : List TableUse) (qualifier : Option String) :
    ((qualifier.map foldAscii).map (t.resolve outer)).map foldAscii =
      (qualifier.map (s.resolve outer)).map foldAscii := by
  cases qualifier with
  | none => rfl
  | some q => exact congrArg some (h.resolve_eq outer q)

theorem recordRef (h : s.SameShape t) (r : Reach) (c : ColumnRef) (role : Role)
    (aliasName : Option String) :
    (Walk.recordRef c role aliasName r s).SameShape
      (Walk.recordRef c.fold role aliasName r t) := by
  refine h.record ?_
  simp only [ColumnUse.fold, ColumnRef.fold, h.map_resolve_eq, Text.foldAscii_foldAscii]

theorem sideTable?_eq (h : s.SameShape t) (c : ColumnRef) (relation : Option String) :
    Sql.sideTable? t c.fold relation = Sql.sideTable? s c relation := by
  obtain ⟨qualifier, column⟩ := c
  cases qualifier with
  | none => rfl
  | some q => exact congrArg (Option.map TableUse.name) (h.ownTable?_eq q)

theorem joinEdge?_eq (h : s.SameShape t) (kind : JoinKind) (left right : Option String)
    (on : Sql.Expr) :
    (Sql.joinEdge? t kind left right on.foldRefs).map JoinEdge.fold =
      (Sql.joinEdge? s kind left right on).map JoinEdge.fold := by
  rw [Sql.joinEdge?, Sql.joinEdge?, on.equiJoin?_foldRefs]
  cases on.equiJoin? with
  | none => rfl
  | some sides =>
    obtain ⟨l, r⟩ := sides
    simp only [Option.map_some, Prod.map, h.sideTable?_eq]
    split
    · simp only [Option.map_some, JoinEdge.fold, ColumnRef.fold, Text.foldAscii_foldAscii]
    · rfl

end SameShape

end Scope

namespace Walk

/-- Two walks do the same to the shape of a footprint. -/
def SameShape (v w : Walk) : Prop :=
  ∀ r s t, Scope.SameShape s t → (v r s).SameShape (w r t)

/-- Negating leaves of the conditions that a walk adds one or none. -/
theorem length_conditions_negated (w : Walk) (r : Reach) (s : Scope) :
    (w.negated r s).footprint.conditions.length =
      ((w r s).footprint.conditions.take s.footprint.conditions.length).length +
        if ((w r s).footprint.conditions.drop s.footprint.conditions.length).length = 1 then 1
        else 0 := by
  unfold negated
  simp only [Scope.edit]
  cases (w r s).footprint.conditions.drop s.footprint.conditions.length with
  | nil => rfl
  | cons leaf others =>
    cases others with
    | nil => exact List.length_append
    | cons => simp

namespace SameShape

variable {v w : Walk}

theorem skip : SameShape .skip .skip := fun _ _ _ h ↦ h

theorem cons {vs ws : List Walk} (h : SameShape v w) (k : SameShape (.all vs) (.all ws)) :
    SameShape (.all (v :: vs)) (.all (w :: ws)) :=
  fun r s t same ↦ k r _ _ (h r s t same)

theorem pair {v' w' : Walk} (h : SameShape v w) (k : SameShape v' w') :
    SameShape (.all [v, v']) (.all [w, w']) :=
  h.cons (k.cons skip)

theorem unsupported (message message' : String) :
    SameShape (.unsupported message) (.unsupported message') :=
  fun _ _ _ h ↦ h.note _ _

theorem register (t : TableUse) : SameShape (.register t) (.register t) :=
  fun _ _ _ h ↦ h.register t

theorem recordRef (c : ColumnRef) (role : Role) (aliasName : Option String) :
    SameShape (.recordRef c role aliasName) (.recordRef c.fold role aliasName) :=
  fun r _ _ h ↦ h.recordRef r c role aliasName

theorem leaf (m : Mode) (e : Sql.Expr) : SameShape (m.leaf e) (m.leaf e.foldRefs) := by
  intro r s t h
  have both := e.isSome_condition?_foldRefs
  unfold Mode.leaf
  split
  · cases he : e.condition? with
    | none =>
      rw [he, Option.isSome_none, Option.isSome_eq_false_iff, Option.isNone_iff_eq_none] at both
      rw [both]
      exact h
    | some text =>
      rw [he, Option.isSome_some, Option.isSome_iff_exists] at both
      obtain ⟨text', ht⟩ := both
      rw [ht]
      exact h.addCondition text text'
  · exact h

theorem deeper (what : String) (h : SameShape v w) :
    SameShape (.deeper what v) (.deeper what w) := by
  intro r s t same
  rcases Nat.lt_or_ge r.depth r.limit with hd | hd
  · rw [deeper_of_lt hd, deeper_of_lt hd]
    exact h _ s t same
  · rw [deeper_of_le hd, deeper_of_le hd]
    exact same.note _ _

theorem nested (place : Place) (kind : StatementKind) (text text' : String) (h : SameShape v w) :
    SameShape (.nested kind text v place.keep) (.nested kind text' w place.keep) := by
  intro r s t same
  unfold Walk.nested
  split
  · rw [same.visible]
    exact same.keep place (h _ _ _ (.start kind text text')).finish
  · exact same.note _ _

theorem branch (h : SameShape v w) : SameShape v.branch w.branch := by
  intro r s t same
  have walked := h r s t same
  refine ⟨?_, walked.shape⟩
  unfold Walk.branch
  dsimp only
  rw [walked.visible, same.visible]

/-- Whether a condition is negated or several are dropped is seen from their number. -/
theorem negated (h : SameShape v w) : SameShape v.negated w.negated := by
  intro r s t same
  have walked := h r s t same
  refine ⟨walked.visible, Footprint.shape_conditions_congr walked.shape ?_⟩
  refine (length_conditions_negated v r s).trans
    (Eq.trans ?_ (length_conditions_negated w r t).symm)
  rw [List.length_take, List.length_take, List.length_drop, List.length_drop,
    Footprint.length_conditions_of_shape_eq same.shape,
    Footprint.length_conditions_of_shape_eq walked.shape]

theorem joinOn (kind : JoinKind) (left right : Option String) (on : Sql.Expr)
    (h : SameShape v w) :
    SameShape (Sql.joinOn kind left right on v) (Sql.joinOn kind left right on.foldRefs w) := by
  intro r s t same
  have edges := same.joinEdge?_eq kind left right on
  unfold Sql.joinOn
  cases hs : Sql.joinEdge? s kind left right on with
  | none =>
    rw [hs, Option.map_none, Option.map_eq_none_iff] at edges
    rw [edges]
    exact h r _ _ (same.note _ _)
  | some e =>
    rw [hs, Option.map_some, Option.map_eq_some_iff] at edges
    obtain ⟨e', he, fold⟩ := edges
    rw [he]
    exact same.recordEdge fold.symm

end SameShape

end Walk

namespace Sql

open Text (foldAscii_foldAscii)
open Walk (SameShape)

/-- The same for walks that tell the table which columns belong to, and tell the same. -/
def TellSameShape (v w : Reach → Scope → Option String × Scope) : Prop :=
  ∀ r s t, Scope.SameShape s t → (v r s).1 = (w r t).1 ∧ (v r s).2.SameShape (w r t).2

theorem TellSameShape.walk {v w : Reach → Scope → Option String × Scope} (h : TellSameShape v w) :
    SameShape (fun r s ↦ (v r s).2) (fun r s ↦ (w r s).2) :=
  fun r s t same ↦ (h r s t same).2

theorem selectWildcard_sameShape (name : ObjectName) :
    SameShape
      (fun r s ↦ selectWildcard (name.getLast?.map fun i ↦ s.resolve r.outer i.text) s)
      (fun r s ↦ selectWildcard
        ((name.map Ident.fold).getLast?.map fun i ↦ s.resolve r.outer i.text) s) := by
  intro r s t h
  refine h.record ?_
  rw [List.getLast?_map]
  cases name.getLast? with
  | none => rfl
  | some i => simp only [ColumnUse.fold, Option.map_some, Ident.fold, h.resolve_eq]

mutual

theorem Expr.walk_foldRefs (m : Mode) : ∀ e : Expr, SameShape (e.walk m) (e.foldRefs.walk m)
  | .binary left .and right => .pair (left.walk_foldRefs m) (right.walk_foldRefs m)
  | .binary left .or right => .pair (left.walk_foldRefs m) (right.walk_foldRefs m)
  | .column path name => by
    have same := SameShape.recordRef ⟨path.getLast?.map Ident.text, name.text⟩ m.role none
    refine .deeper _ ?_
    rw [List.getLast?_map, Option.map_map]
    simp only [ColumnRef.fold, Option.map_map] at same
    exact same
  | .constant _ => .deeper _ .skip
  | .binary left (.compare _) right =>
    .deeper _ (.cons (.leaf m _)
      (.pair (left.walk_foldRefs m.operand) (right.walk_foldRefs m.operand)))
  | .binary left (.other _) right =>
    .deeper _ (.pair (left.walk_foldRefs m.operand) (right.walk_foldRefs m.operand))
  | .unary .not operand => by
    refine .deeper _ ?_
    split
    · exact (operand.walk_foldRefs m).negated
    · exact operand.walk_foldRefs m
  | .unary (.before _) operand => .deeper _ (operand.walk_foldRefs m)
  | .unary (.after _) operand => .deeper _ (operand.walk_foldRefs m)
  | .nested inner => .deeper _ (inner.walk_foldRefs m)
  | .cast _ operand _ _ => .deeper _ (operand.walk_foldRefs m)
  | .nullTest operand _ => .deeper _ (.pair (.leaf m _) (operand.walk_foldRefs m.operand))
  | .distinctTest left _ right =>
    .deeper _ (.cons (.leaf m _)
      (.pair (left.walk_foldRefs m.operand) (right.walk_foldRefs m.operand)))
  | .quantified left _ _ right =>
    .deeper _ (.cons (.leaf m _)
      (.pair (left.walk_foldRefs m.operand) (right.walk_foldRefs m.operand)))
  | .between operand _ low high =>
    .deeper _ (.cons (.leaf m _) (.cons (operand.walk_foldRefs m.operand)
      (.pair (low.walk_foldRefs .mention) (high.walk_foldRefs .mention))))
  | .inList operand _ items =>
    .deeper _ (.cons (.leaf m _)
      (.pair (operand.walk_foldRefs m.operand) (walkExprs_foldRefs .mention items)))
  | .inQuery operand _ query =>
    .deeper _ (.pair (operand.walk_foldRefs m.operand)
      (.nested .elsewhere _ _ _ query.walk_foldRefs))
  | .pattern _ operand _ _ against _ => by
    refine .deeper _ (.cons (.leaf m _) (.cons ?_
      (.pair (operand.walk_foldRefs m.operand) (against.walk_foldRefs .mention))))
    split
    · exact .unsupported _ _
    · exact .skip
  | .existsQuery _ query => .deeper _ (.nested .elsewhere _ _ _ query.walk_foldRefs)
  | .subquery query => .deeper _ (.nested .elsewhere _ _ _ query.walk_foldRefs)
  | .call _ _ arguments _ filter _ window =>
    .deeper _ (.cons (arguments.walk_foldRefs m.operand)
      (.pair (walkOption_foldRefs m.operand filter) (window.walk_foldRefs m.operand)))
  | .braced call => call.walk_foldRefs m
  | .cases operand conditions results otherwise =>
    .deeper _ (.cons (walkOption_foldRefs m.operand operand)
      (.cons (walkExprs_foldRefs m.operand conditions)
        (.pair (walkExprs_foldRefs m.operand results) (walkOption_foldRefs m.operand otherwise))))
  | .trim _ what operand characters =>
    .deeper _ (.cons (operand.walk_foldRefs m.operand)
      (.pair (walkOption_foldRefs m.operand what) (walkExprs_foldRefs m.operand characters)))
  | .groupingSets parts =>
    .deeper _ (.pair (.unsupported _ _) (walkPieces_foldRefs m.operand parts))
  | .template parts => .deeper _ (walkPieces_foldRefs m.operand parts)
  | .raw _ => .deeper _ .skip

theorem walkExprs_foldRefs (m : Mode) : ∀ es : List Expr,
    SameShape (walkExprs m es) (walkExprs m (foldExprs es))
  | [] => .skip
  | e :: es => .pair (e.walk_foldRefs m) (walkExprs_foldRefs m es)

theorem walkOption_foldRefs (m : Mode) : ∀ e : Option Expr,
    SameShape (walkOption m e) (walkOption m (foldOption e))
  | none => .skip
  | some e => e.walk_foldRefs m

theorem walkPieces_foldRefs (m : Mode) : ∀ ps : List Piece,
    SameShape (walkPieces m ps) (walkPieces m (foldPieces ps))
  | [] => .skip
  | .expr e :: ps => .pair (e.walk_foldRefs m) (walkPieces_foldRefs m ps)
  | .text _ :: ps => walkPieces_foldRefs m ps
  | .query _ :: ps => walkPieces_foldRefs m ps
  | .table _ :: ps => walkPieces_foldRefs m ps

theorem Args.walk_foldRefs (m : Mode) : ∀ as : Args, SameShape (as.walk m) (as.foldRefs.walk m)
  | .none => .skip
  | .query q => .nested .elsewhere _ _ _ q.walk_foldRefs
  | .list _ items _ => walkArgs_foldRefs m items

theorem walkArgs_foldRefs (m : Mode) : ∀ as : List Arg,
    SameShape (walkArgs m as) (walkArgs m (foldArgs as))
  | [] => .skip
  | a :: as => .pair (a.walk_foldRefs m) (walkArgs_foldRefs m as)

theorem Arg.walk_foldRefs (m : Mode) : ∀ a : Arg, SameShape (a.walk m) (a.foldRefs.walk m)
  | .value e => e.walk_foldRefs m
  | .wildcard _ => .skip
  | .named _ _ (.value e) => e.walk_foldRefs m
  | .named _ _ (.wildcard _) => .skip
  | .named _ _ (.named _ _ _) => .skip
  | .named _ _ (.keyed _ _ _) => .skip
  | .keyed _ _ _ => .skip

theorem Window.walk_foldRefs (m : Mode) : ∀ w : Window, SameShape (w.walk m) (w.foldRefs.walk m)
  | .none => .skip
  | .named _ => .skip
  | .spec _ partition order frame => by
    rw [Window.foldRefs, Window.walk, Window.walk]
    refine .cons (walkExprs_foldRefs m partition) (.pair (walkKeys_foldRefs m order) ?_)
    cases frame with
    | nil => exact .skip
    | cons p ps => exact .unsupported _ _

theorem walkKeys_foldRefs (m : Mode) : ∀ ks : List OrderKey,
    SameShape (walkKeys m ks) (walkKeys m (foldKeys ks))
  | [] => .skip
  | k :: ks => .pair (k.walk_foldRefs m) (walkKeys_foldRefs m ks)

theorem OrderKey.walk_foldRefs (m : Mode) : ∀ k : OrderKey,
    SameShape (k.walk m) (k.foldRefs.walk m)
  | .mk expr _ => expr.walk_foldRefs m

theorem Query.walk_foldRefs : ∀ q : Query, SameShape q.walk q.foldRefs.walk
  | ⟨recursive, ctes, body, order, _⟩ => by
    refine .deeper _ (.cons ?_ (.cons (walkCtes_foldRefs ctes)
      (.pair body.walk_foldRefs (walkKeys_foldRefs _ order))))
    split
    · exact .unsupported _ _
    · exact .skip

theorem walkCtes_foldRefs : ∀ cs : List Cte, SameShape (walkCtes cs) (walkCtes (foldCtes cs))
  | [] => .skip
  | c :: cs => .pair c.walk_foldRefs (walkCtes_foldRefs cs)

theorem Cte.walk_foldRefs : ∀ c : Cte, SameShape c.walk c.foldRefs.walk
  | ⟨_, _, query, _⟩ => .pair (.nested .withClause _ _ _ query.walk_foldRefs) (.register _)

theorem SetExpr.walk_foldRefs : ∀ e : SetExpr, SameShape e.walk e.foldRefs.walk
  | .select s => s.walk_foldRefs
  | .query q => q.walk_foldRefs
  | .operation .union _ left right =>
    .pair (left.walk_foldRefs.deeper _).branch (right.walk_foldRefs.deeper _).branch
  | .operation .except _ _ _ => .unsupported _ _
  | .operation .intersect _ _ _ => .unsupported _ _
  | .values _ => .skip
  | .insert _ => .skip
  | .update _ => .skip
  | .other _ => .skip

theorem Select.walk_foldRefs : ∀ s : Select, SameShape s.walk s.foldRefs.walk
  | ⟨_, projection, _, sources, _, filter, grouping, _, having, _⟩ => by
    rw [Select.foldRefs, Select.walk, Select.walk]
    exact .cons (walkSources_foldRefs sources) (.cons (walkItems_foldRefs projection)
      (.cons (walkOption_foldRefs _ filter)
        (.pair grouping.walk_foldRefs (walkOption_foldRefs _ having))))

theorem Grouping.walk_foldRefs : ∀ g : Grouping, SameShape g.walk g.foldRefs.walk
  | .all _ => .skip
  | .keys exprs _ => walkExprs_foldRefs _ exprs

theorem walkItems_foldRefs : ∀ is : List SelectItem,
    SameShape (walkItems is) (walkItems (foldItems is))
  | [] => .skip
  | i :: is => .pair i.walk_foldRefs (walkItems_foldRefs is)

theorem SelectItem.walk_foldRefs : ∀ i : SelectItem, SameShape i.walk i.foldRefs.walk
  | .expr e => e.walk_foldRefs _
  | .aliased e aliasName => by
    rw [SelectItem.foldRefs, SelectItem.walk, SelectItem.walk, e.columnRef?_foldRefs]
    cases e.columnRef? with
    | none => exact e.walk_foldRefs _
    | some c => exact .recordRef c .selected _
  | .wildcard _ => fun _ _ _ h ↦ h.record rfl
  | .qualifiedWildcard name _ => selectWildcard_sameShape name

theorem walkSources_foldRefs : ∀ ts : List TableWithJoins,
    SameShape (walkSources ts) (walkSources (foldSources ts))
  | [] => .skip
  | t :: ts => .pair t.walk_foldRefs.walk (walkSources_foldRefs ts)

theorem TableWithJoins.walk_foldRefs : ∀ t : TableWithJoins,
    TellSameShape t.walk t.foldRefs.walk
  | ⟨relation, joins⟩ => by
    intro r s t h
    obtain ⟨told, same⟩ := relation.walk_foldRefs r s t h
    have joined := walkJoins_foldRefs (relation.foldRefs.walk r t).1 joins r _ _ same
    refine ⟨told, ?_⟩
    rw [TableWithJoins.foldRefs, TableWithJoins.walk, TableWithJoins.walk]
    dsimp only
    rw [told]
    exact joined

theorem walkJoins_foldRefs (left : Option String) : ∀ js : List Join,
    SameShape (walkJoins left js) (walkJoins left (foldJoins js))
  | [] => .skip
  | ⟨global, relation, operator⟩ :: js => by
    intro r s t h
    obtain ⟨told, same⟩ := relation.walk_foldRefs r s t h
    have joined := operator.walk_foldRefs left (relation.foldRefs.walk r t).1
      (Join.render ⟨global, relation, operator⟩)
      (Join.render ⟨global, relation.foldRefs, operator.foldRefs⟩) r _ _ same
    have rest := walkJoins_foldRefs (relation.foldRefs.walk r t).1 js r _ _ joined
    rw [foldJoins, Join.foldRefs, walkJoins, walkJoins]
    dsimp only
    rw [told]
    exact rest

theorem JoinOperator.walk_foldRefs (left right : Option String) (text text' : String) :
    ∀ o : JoinOperator, SameShape (o.walk left right text) (o.foldRefs.walk left right text')
  | .inner c => c.walk_foldRefs .inner left right
  | .left c => c.walk_foldRefs .left left right
  | .right c => c.walk_foldRefs .right left right
  | .full c => c.walk_foldRefs .full left right
  | .cross => .skip
  | .special _ _ _ => .unsupported _ _

theorem JoinConstraint.walk_foldRefs (kind : JoinKind) (left right : Option String) :
    ∀ c : JoinConstraint, SameShape (c.walk kind left right) (c.foldRefs.walk kind left right)
  | .on e => .joinOn kind left right e (e.walk_foldRefs .mention)
  | .usingColumns _ => .unsupported _ _
  | .natural => .unsupported _ _
  | .none => .skip

theorem TableFactor.walk_foldRefs : ∀ t : TableFactor, TellSameShape t.walk t.foldRefs.walk
  | .table _ _ _ _ => fun _ _ _ h ↦ ⟨rfl, h.register _⟩
  | .derived _ query none => fun r s t h ↦
    ⟨rfl, SameShape.nested .elsewhere _ _ _ query.walk_foldRefs r s t h⟩
  | .derived _ query (some _) => fun r s t h ↦
    ⟨rfl, (SameShape.nested .elsewhere _ _ _ query.walk_foldRefs r s t h).register _⟩
  | .nestedJoin joined none => joined.walk_foldRefs
  | .nestedJoin joined (some _) => fun r s t h ↦
    ⟨rfl, (joined.walk_foldRefs r s t h).2.register _⟩
  | .special _ _ _ => fun _ _ _ h ↦ ⟨rfl, h.note _ _⟩

end

/-! ## Statements -/

theorem Insert.sourceWalk_foldRefs (i : Insert) :
    SameShape i.sourceWalk i.foldRefs.sourceWalk := by
  obtain ⟨_, _, _, _, _, source, _, _⟩ := i
  unfold Insert.sourceWalk
  cases source with
  | none => exact .skip
  | some q =>
    obtain ⟨recursive, ctes, body, order, tail⟩ := q
    have walked := Query.walk_foldRefs ⟨recursive, ctes, body, order, tail⟩
    cases body with
    | values parts => exact .skip
    | _ => exact .nested .elsewhere _ _ _ walked

theorem insertColumns_foldRefs (table : Option String) (columns : List Ident) :
    SameShape
      (fun _ s ↦ columns.foldl (fun s c ↦
        s.edit (·.record ⟨c.text, table, none, .ofRole .modified, none, none⟩)) s)
      (fun _ s ↦ (columns.map Ident.fold).foldl (fun s c ↦
        s.edit (·.record ⟨c.text, table, none, .ofRole .modified, none, none⟩)) s) := by
  intro r s t h
  induction columns generalizing s t with
  | nil => exact h
  | cons c cs ih =>
    refine ih _ _ (h.record ?_)
    simp only [ColumnUse.fold, Ident.fold, Text.foldAscii_foldAscii]

theorem Insert.walk_foldRefs (i : Insert) : SameShape i.walk i.foldRefs.walk := by
  intro r s t h
  let target := i.table.toTableUse (i.aliasName.map Ident.text)
  have recorded := insertColumns_foldRefs (some target.name) i.columns r _ _ (h.register target)
  have inserted := i.sourceWalk_foldRefs r _ _ recorded
  cases i
  exact inserted

theorem assignColumn_foldRefs (target : Option String) (name : ObjectName) :
    SameShape (assignColumn target name) (assignColumn target (name.map Ident.fold)) := by
  intro r s t h
  unfold assignColumn
  rw [name.columnRef?_fold]
  cases name.columnRef? with
  | none => exact h
  | some c =>
    obtain ⟨qualifier, column⟩ := c
    refine h.record ?_
    cases qualifier with
    | none => simp only [ColumnUse.fold, ColumnRef.fold, Option.map_none, foldAscii_foldAscii]
    | some q =>
      simp only [ColumnUse.fold, ColumnRef.fold, Option.map_some, foldAscii_foldAscii,
        h.resolve_eq]

theorem Assignment.walk_foldRefs (target : Option String) :
    ∀ a : Assignment, SameShape (a.walk target) (a.foldRefs.walk target)
  | .mk (.column name) value =>
    .pair (assignColumn_foldRefs target name) (value.walk_foldRefs .mention)
  | .mk (.tuple names) value => by
    have targets : SameShape (.all (names.map (assignColumn target)))
        (.all ((names.map fun name ↦ name.map Ident.fold).map (assignColumn target))) := by
      induction names with
      | nil => exact .skip
      | cons name names ih => exact (assignColumn_foldRefs target name).cons ih
    exact targets.pair (value.walk_foldRefs .mention)

theorem walkAssignments_foldRefs (target : Option String) (as : List Assignment) :
    SameShape (.all (as.map (·.walk target))) (.all ((foldAssignments as).map (·.walk target))) := by
  induction as with
  | nil => exact .skip
  | cons a as ih => exact (a.walk_foldRefs target).cons ih

theorem Update.walk_foldRefs (u : Update) : SameShape u.walk u.foldRefs.walk := by
  obtain ⟨_, table, assignments, _, filter, _⟩ := u
  intro r s t h
  obtain ⟨told, same⟩ := table.walk_foldRefs r s t h
  have rest := (walkAssignments_foldRefs (table.foldRefs.walk r t).1 assignments).pair
    (walkOption_foldRefs .predicate filter) r _ _ same
  rw [Update.foldRefs, Update.walk, Update.walk]
  dsimp only
  rw [told]
  exact rest

theorem Delete.walk_foldRefs (d : Delete) : SameShape d.walk d.foldRefs.walk :=
  .cons (walkSources_foldRefs d.sources)
    (.pair (walkSources_foldRefs d.others) (walkOption_foldRefs _ d.filter))

theorem Statement.walk_foldRefs : ∀ s : Statement, SameShape s.walk s.foldRefs.walk
  | .query q => q.walk_foldRefs
  | .insert i => i.walk_foldRefs
  | .update u => u.walk_foldRefs
  | .delete d => d.walk_foldRefs
  | .createTable _ => .skip
  | .other _ => .skip

theorem Statement.kind_foldRefs (s : Statement) : s.foldRefs.kind = s.kind := by
  cases s <;> rfl

end Sql

/-- In lower case the references of a statement make a footprint of the same shape. -/
theorem Footprint.shape_ofStatement_foldRefs (limit : Nat) (statement : Sql.Statement)
    (text text' : String) :
    (ofStatement limit statement.foldRefs text').shape = (ofStatement limit statement text).shape := by
  have same := statement.walk_foldRefs ⟨[], 0, limit⟩ _ _ (.start statement.kind text text')
  rw [ofStatement, ofStatement, statement.kind_foldRefs]
  exact same.finish.symm

/-- Statements that differ in the case of references have footprints of one shape. -/
theorem Footprint.shape_ofStatement_congr {S T : Sql.Statement} (h : S.foldRefs = T.foldRefs)
    (limit : Nat) (text text' : String) :
    (ofStatement limit S text).shape = (ofStatement limit T text').shape := by
  rw [← shape_ofStatement_foldRefs limit S text text, ← shape_ofStatement_foldRefs limit T text' text,
    h]

end SqlFootprint
