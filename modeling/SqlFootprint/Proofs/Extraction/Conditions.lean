import SqlFootprint.Proofs.Extraction.Findings

/-!
# The conditions of a clause

Which conditions a `WHERE` clause makes depends on the expression and on how many levels are left:
`Expr.conditionsWithin` tells them without a walk. A negation keeps the condition of its operand if
there is exactly one. An operand joined by `AND` or `OR` may have exactly one condition, too, since
not every part of it makes one; then that one is kept as well.
-/

namespace SqlFootprint

/-! ## Telling conditions -/

/-- What is left of the conditions of an operand that is negated. -/
def negatedLeaves : List String → List String
  | [leaf] => ["NOT " ++ leaf]
  | _ => []

theorem negatedLeaves_eq_nil_iff {leaves : List String} :
    negatedLeaves leaves = [] ↔ leaves.length ≠ 1 := by
  match leaves with
  | [] => simp [negatedLeaves]
  | [leaf] => simp [negatedLeaves]
  | _ :: _ :: _ => simp [negatedLeaves]

/-- What is told one level down, of the levels that are left. -/
def below (conditions : Nat → List String) : Nat → List String
  | 0 => []
  | levels + 1 => conditions levels

theorem below_nil : below (fun _ ↦ []) = fun _ ↦ [] := by
  funext levels
  cases levels <;> rfl

namespace Sql.Expr

/-- The condition of a leaf, in a mode that collects them. -/
def leafConditions (m : Mode) (e : Expr) : List String :=
  if m.conditions then e.condition?.toList else []

theorem leafConditions_of_quiet {m : Mode} (hm : m.conditions = false) (e : Expr) :
    e.leafConditions m = [] := by
  rw [leafConditions, hm]
  rfl

/-- The conditions of an expression, as far as they are within some levels. -/
def conditionsWithin (m : Mode) : Expr → Nat → List String
  | .binary left .and right => fun levels ↦
    left.conditionsWithin m levels ++ right.conditionsWithin m levels
  | .binary left .or right => fun levels ↦
    left.conditionsWithin m levels ++ right.conditionsWithin m levels
  | .unary .not operand => below fun levels ↦
    if m.conditions then negatedLeaves (operand.conditionsWithin m levels)
    else operand.conditionsWithin m levels
  | .unary (.before _) operand => below (operand.conditionsWithin m)
  | .unary (.after _) operand => below (operand.conditionsWithin m)
  | .nested inner => below (inner.conditionsWithin m)
  | .cast _ operand _ _ => below (operand.conditionsWithin m)
  | .braced inner => inner.conditionsWithin m
  | e => below fun _ ↦ e.leafConditions m

/-- An expression for which no level is left makes no condition. -/
theorem conditionsWithin_zero (m : Mode) (e : Expr) : e.conditionsWithin m 0 = [] := by
  fun_induction conditionsWithin m e with
  | case1 left right ihl ihr => exact List.append_eq_nil_iff.2 ⟨ihl, ihr⟩
  | case2 left right ihl ihr => exact List.append_eq_nil_iff.2 ⟨ihl, ihr⟩
  | case8 inner ih => exact ih
  | case3 | case4 | case5 | case6 | case7 | case9 => rfl

theorem conditionsWithin_of_quiet {m : Mode} (hm : m.conditions = false) (e : Expr) :
    e.conditionsWithin m = fun _ ↦ [] := by
  fun_induction conditionsWithin m e with
  | case1 left right ihl ihr => simp only [ihl, ihr, List.append_nil]
  | case2 left right ihl ihr => simp only [ihl, ihr, List.append_nil]
  | case3 operand ih =>
    simp only [hm, ih, Bool.false_eq_true, if_false]
    exact below_nil
  | case4 spelling operand ih => rw [ih, below_nil]
  | case5 spelling operand ih => rw [ih, below_nil]
  | case6 inner ih => rw [ih, below_nil]
  | case7 form operand target format ih => rw [ih, below_nil]
  | case8 inner ih => exact ih
  | case9 e => rw [leafConditions_of_quiet hm, below_nil]

end Sql.Expr

namespace Walk

/-- A negated walk finds the same, apart from conditions. -/
theorem Finds.negated {w : Walk} {r : Reach} {visible entered : List TableUse} {found : Findings}
    (h : Finds w r visible found entered) :
    Finds w.negated r visible { found with conditions := negatedLeaves found.conditions }
      entered where
  fresh := h.fresh
  eq f := by
    unfold Walk.negated
    rw [h.eq]
    dsimp only [Scope.edit, Footprint.add]
    rw [List.take_left, List.drop_left]
    match found.conditions with
    | [] => simp [negatedLeaves]
    | [leaf] => simp [negatedLeaves]
    | _ :: _ :: _ => simp [negatedLeaves]

/-- A walk enters no relations, and the conditions that it finds are told by how many levels are
left. -/
def Gathers (conditions : Nat → List String) (w : Walk) : Prop :=
  ∀ r visible, ∃ found, Finds w r visible found [] ∧
    found.conditions = conditions (r.limit - r.depth)

/-- A walk without conditions. -/
abbrev Quiet : Walk → Prop :=
  Gathers fun _ ↦ []

namespace Gathers

variable {c d : Nat → List String} {v w : Walk}

theorem additive (h : Gathers c w) : Additive w := by
  intro r visible
  obtain ⟨found, finds, -⟩ := h r visible
  exact ⟨found, [], finds⟩

theorem andThen (h : Gathers c v) (k : Gathers d w) :
    Gathers (fun levels ↦ c levels ++ d levels) (v.andThen w) := by
  intro r visible
  obtain ⟨a, ha, first⟩ := h r visible
  obtain ⟨b, hb, second⟩ := k r (visible ++ [])
  exact ⟨a ++ b, ha.andThen hb, by rw [Findings.conditions_append, first, second]⟩

theorem skip : Quiet .skip :=
  fun r visible ↦ ⟨_, .skip r visible, rfl⟩

theorem unsupported (message : String) : Quiet (.unsupported message) :=
  fun r visible ↦ ⟨_, .note _ r visible, rfl⟩

theorem condition (text : String) : Gathers (fun _ ↦ [text]) (.edit (·.addCondition text)) :=
  fun r visible ↦ ⟨_, .condition text r visible, rfl⟩

theorem recordRef (c : ColumnRef) (role : Role) (aliasName : Option String) :
    Quiet (.recordRef c role aliasName) :=
  fun r visible ↦ ⟨_, .recordRef c role aliasName r visible, rfl⟩

theorem deeper (what : String) (h : Gathers c w) : Gathers (below c) (.deeper what w) := by
  intro r visible
  rcases Nat.lt_or_ge r.depth r.limit with hd | hd
  · obtain ⟨found, finds, told⟩ := h { r with depth := r.depth + 1 } visible
    refine ⟨found, .deeper_of_lt hd what finds, told.trans ?_⟩
    obtain ⟨levels, hl⟩ := Nat.exists_eq_add_of_lt hd
    have left : r.limit - r.depth = levels + 1 := by omega
    have inside : r.limit - (r.depth + 1) = levels := by omega
    rw [left, inside]
    rfl
  · obtain ⟨n, finds⟩ := Finds.deeper_of_le hd what w visible
    refine ⟨_, finds, ?_⟩
    rw [Nat.sub_eq_zero_of_le hd]
    rfl

theorem nested (place : Place) (q : Sql.Query) :
    Quiet (.nested place.kind q.render q.walk place.keep) := by
  intro r visible
  rcases Nat.lt_or_ge r.depth r.limit with hd | hd
  · exact ⟨_, .nested_of_lt hd place q visible, place.conditions_findings _⟩
  · obtain ⟨n, finds⟩ := Finds.nested_of_le hd place q visible
    exact ⟨_, finds, rfl⟩

theorem negated (h : Gathers c w) : Gathers (fun levels ↦ negatedLeaves (c levels)) w.negated := by
  intro r visible
  obtain ⟨found, finds, told⟩ := h r visible
  exact ⟨_, finds.negated, by rw [told]⟩

theorem cons {ws : List Walk} (h : Gathers c w) (k : Quiet (.all ws)) :
    Gathers c (.all (w :: ws)) := by
  have both := h.andThen k
  simp only [List.append_nil] at both
  exact both

theorem pair (h : Gathers c v) (k : Gathers d w) :
    Gathers (fun levels ↦ c levels ++ d levels) (.all [v, w]) :=
  h.andThen (k.cons skip)

/-- A level that holds an expression without a condition of its own. -/
theorem plain {m : Mode} {e : Sql.Expr} (he : e.condition? = none) (what : String) (h : Quiet w) :
    Gathers (below fun _ ↦ e.leafConditions m) (.deeper what w) := by
  have none : e.leafConditions m = [] := by
    rw [Sql.Expr.leafConditions, he]
    exact ite_self []
  rw [none]
  exact h.deeper what

end Gathers

end Walk

open Walk (Gathers Quiet)

theorem Mode.leaf_gathers (m : Mode) (e : Sql.Expr) :
    Gathers (fun _ ↦ e.leafConditions m) (m.leaf e) := by
  unfold leaf Sql.Expr.leafConditions
  split
  · cases e.condition? with
    | none => exact .skip
    | some text => exact .condition text
  · exact .skip

namespace Sql

/-! ## Expressions -/

theorem Expr.quiet_of_gathers {m : Mode} (hm : m.conditions = false) {e : Expr} {w : Walk}
    (h : Gathers (e.conditionsWithin m) w) : Quiet w := by
  rwa [e.conditionsWithin_of_quiet hm] at h

mutual

theorem Expr.walk_gathers (m : Mode) : ∀ e : Expr, Gathers (e.conditionsWithin m) (e.walk m)
  | .binary left .and right => .pair (left.walk_gathers m) (right.walk_gathers m)
  | .binary left .or right => .pair (left.walk_gathers m) (right.walk_gathers m)
  | .column _ _ => .plain rfl _ (.recordRef _ _ _)
  | .constant _ => .plain rfl _ .skip
  | .binary left (.compare _) right =>
    .deeper _ (.cons (m.leaf_gathers _) (.pair (left.walk_operand m) (right.walk_operand m)))
  | .binary left (.other _) right =>
    .plain rfl _ (.pair (left.walk_operand m) (right.walk_operand m))
  | .unary .not operand => by
    have walked := operand.walk_gathers m
    refine .deeper _ ?_
    by_cases hm : m.conditions
    · simp only [if_pos hm]
      exact walked.negated
    · simp only [if_neg hm]
      exact walked
  | .unary (.before _) operand => .deeper _ (operand.walk_gathers m)
  | .unary (.after _) operand => .deeper _ (operand.walk_gathers m)
  | .nested inner => .deeper _ (inner.walk_gathers m)
  | .cast _ operand _ _ => .deeper _ (operand.walk_gathers m)
  | .nullTest operand _ =>
    .deeper _ (.cons (m.leaf_gathers _) (.cons (operand.walk_operand m) .skip))
  | .distinctTest left _ right =>
    .deeper _ (.cons (m.leaf_gathers _) (.pair (left.walk_operand m) (right.walk_operand m)))
  | .quantified left _ _ right =>
    .deeper _ (.cons (m.leaf_gathers _) (.pair (left.walk_operand m) (right.walk_operand m)))
  | .between operand _ low high =>
    .deeper _ (.cons (m.leaf_gathers _) (.cons (operand.walk_operand m)
      (.pair (low.walk_operand .mention) (high.walk_operand .mention))))
  | .inList operand _ items =>
    .deeper _ (.cons (m.leaf_gathers _)
      (.pair (operand.walk_operand m) (walkExprs_quiet .mention rfl items)))
  | .inQuery operand _ query =>
    .plain rfl _ (.pair (operand.walk_operand m) (.nested .elsewhere query))
  | .pattern kind operand _ _ against _ => by
    refine .deeper _ (.cons (m.leaf_gathers _) (.cons ?_
      (.pair (operand.walk_operand m) (against.walk_operand .mention))))
    split
    · exact .unsupported _
    · exact .skip
  | .existsQuery _ query => .plain rfl _ (.nested .elsewhere query)
  | .subquery query => .plain rfl _ (.nested .elsewhere query)
  | .call _ _ arguments _ filter _ window =>
    .plain rfl _ (.cons (arguments.walk_quiet m.operand rfl)
      (.pair (walkOption_quiet m.operand rfl filter) (window.walk_quiet m.operand rfl)))
  | .braced inner => inner.walk_gathers m
  | .cases operand conditions results otherwise =>
    .plain rfl _ (.cons (walkOption_quiet m.operand rfl operand)
      (.cons (walkExprs_quiet m.operand rfl conditions)
        (.pair (walkExprs_quiet m.operand rfl results)
          (walkOption_quiet m.operand rfl otherwise))))
  | .trim _ what operand characters =>
    .plain rfl _ (.cons (operand.walk_operand m)
      (.pair (walkOption_quiet m.operand rfl what) (walkExprs_quiet m.operand rfl characters)))
  | .groupingSets parts =>
    .plain rfl _ (.pair (.unsupported _) (walkPieces_quiet m.operand rfl parts))
  | .template parts => .plain rfl _ (walkPieces_quiet m.operand rfl parts)
  | .raw _ => .plain rfl _ .skip

/-- The operands of a leaf make no conditions. -/
theorem Expr.walk_operand (m : Mode) (e : Expr) : Quiet (e.walk m.operand) :=
  Expr.quiet_of_gathers rfl (e.walk_gathers m.operand)

theorem walkExprs_quiet (m : Mode) (hm : m.conditions = false) : ∀ es : List Expr,
    Quiet (walkExprs m es)
  | [] => .skip
  | e :: es => .pair (Expr.quiet_of_gathers hm (e.walk_gathers m)) (walkExprs_quiet m hm es)

theorem walkOption_quiet (m : Mode) (hm : m.conditions = false) : ∀ e : Option Expr,
    Quiet (walkOption m e)
  | none => .skip
  | some e => Expr.quiet_of_gathers hm (e.walk_gathers m)

theorem walkPieces_quiet (m : Mode) (hm : m.conditions = false) : ∀ ps : List Piece,
    Quiet (walkPieces m ps)
  | [] => .skip
  | .expr e :: ps =>
    .pair (Expr.quiet_of_gathers hm (e.walk_gathers m)) (walkPieces_quiet m hm ps)
  | .text _ :: ps => walkPieces_quiet m hm ps
  | .query _ :: ps => walkPieces_quiet m hm ps
  | .table _ :: ps => walkPieces_quiet m hm ps

theorem Args.walk_quiet (m : Mode) (hm : m.conditions = false) : ∀ as : Args, Quiet (as.walk m)
  | .none => .skip
  | .query q => .nested .elsewhere q
  | .list _ items _ => walkArgs_quiet m hm items

theorem walkArgs_quiet (m : Mode) (hm : m.conditions = false) : ∀ as : List Arg,
    Quiet (walkArgs m as)
  | [] => .skip
  | a :: as => .pair (a.walk_quiet m hm) (walkArgs_quiet m hm as)

theorem Arg.walk_quiet (m : Mode) (hm : m.conditions = false) : ∀ a : Arg, Quiet (a.walk m)
  | .value e => Expr.quiet_of_gathers hm (e.walk_gathers m)
  | .wildcard _ => .skip
  | .named _ _ (.value e) => Expr.quiet_of_gathers hm (e.walk_gathers m)
  | .named _ _ (.wildcard _) => .skip
  | .named _ _ (.named _ _ _) => .skip
  | .named _ _ (.keyed _ _ _) => .skip
  | .keyed _ _ _ => .skip

theorem Window.walk_quiet (m : Mode) (hm : m.conditions = false) : ∀ w : Window, Quiet (w.walk m)
  | .none => .skip
  | .named _ => .skip
  | .spec _ partition order frame => by
    rw [Window.walk]
    refine .cons (walkExprs_quiet m hm partition) (.pair (walkKeys_quiet m hm order) ?_)
    split
    · exact .skip
    · exact .unsupported _

theorem walkKeys_quiet (m : Mode) (hm : m.conditions = false) : ∀ ks : List OrderKey,
    Quiet (walkKeys m ks)
  | [] => .skip
  | k :: ks => .pair (k.walk_quiet m hm) (walkKeys_quiet m hm ks)

theorem OrderKey.walk_quiet (m : Mode) (hm : m.conditions = false) : ∀ k : OrderKey,
    Quiet (k.walk m)
  | .mk expr _ => Expr.quiet_of_gathers hm (expr.walk_gathers m)

end

/-! ## Negations -/

namespace Expr

/-- The conditions that an expression adds are told by the levels that are left. -/
theorem conditions_walk (e : Expr) (m : Mode) (r : Reach) (s : Scope) :
    (e.walk m r s).footprint.conditions =
      s.footprint.conditions ++ e.conditionsWithin m (r.limit - r.depth) := by
  obtain ⟨found, finds, told⟩ := e.walk_gathers m r s.visible
  have walked : e.walk m r s = ⟨s.footprint.add found, s.visible ++ []⟩ := finds.eq s.footprint
  rw [walked, ← told]
  rfl

/-- An expression without the parentheses around it. -/
def stripped : Expr → Expr
  | .nested inner => inner.stripped
  | e => e

/-- The number of parentheses around an expression. -/
def wrapping : Expr → Nat
  | .nested inner => inner.wrapping + 1
  | _ => 0

/-- Parentheses take a level each, and do nothing else. -/
theorem conditionsWithin_stripped (m : Mode) (e : Expr) (levels : Nat) :
    e.conditionsWithin m levels = e.stripped.conditionsWithin m (levels - e.wrapping) := by
  fun_induction stripped e generalizing levels with
  | case1 inner ih =>
    rw [conditionsWithin, wrapping]
    cases levels with
    | zero => rw [Nat.zero_sub, conditionsWithin_zero, below]
    | succ levels => rw [below, ih, Nat.add_sub_add_right]
  | case2 e plain =>
    have none : e.wrapping = 0 := by
      unfold wrapping
      split
      · exact absurd rfl (plain _)
      · rfl
    rw [none, Nat.sub_zero]

theorem conditionsWithin_of_condition? {m : Mode} {e : Expr} {text : String}
    (h : e.condition? = some text) (levels : Nat) :
    e.conditionsWithin m (levels + 1) = e.leafConditions m := by
  unfold conditionsWithin
  split
  case h_9 => rfl
  all_goals cases h

/-- The walk of a negation keeps the condition of a leaf, in any number of parentheses, and negates
it. Of an operand that is joined by `AND` or `OR` it keeps nothing, except where one of the two
sides makes a single condition and the other one makes none: that condition is kept and negated. -/
theorem conditions_walk_not (e : Expr) (r : Reach) (s : Scope) :
    let levels := r.limit - (r.depth + 1)
    let before := s.footprint.conditions
    let after := ((Expr.unary .not e).walk .predicate r s).footprint.conditions
    (∀ left op right, e.stripped = .binary left op right → op = .and ∨ op = .or →
      let leaves := left.conditionsWithin .predicate (levels - e.wrapping) ++
        right.conditionsWithin .predicate (levels - e.wrapping)
      (after = before ↔ leaves.length ≠ 1) ∧
        ∀ leaf, leaves = [leaf] → after = before ++ ["NOT " ++ leaf]) ∧
    ∀ text, e.stripped.condition? = some text → e.wrapping < levels →
      after = before ++ ["NOT " ++ text] := by
  intro levels before after
  have negated : after = before ++
      negatedLeaves (e.stripped.conditionsWithin .predicate (levels - e.wrapping)) := by
    have walked : after = before ++ _ := conditions_walk (.unary .not e) .predicate r s
    rw [walked, ← conditionsWithin_stripped, conditionsWithin]
    rcases Nat.lt_or_ge r.depth r.limit with hd | hd
    · have left : r.limit - r.depth = levels + 1 := by omega
      rw [left]
      rfl
    · have none : levels = 0 := by omega
      rw [Nat.sub_eq_zero_of_le hd, none, conditionsWithin_zero]
      rfl
  constructor
  · intro left op right shape compound leaves
    have parts : e.stripped.conditionsWithin .predicate (levels - e.wrapping) = leaves := by
      rw [shape]
      rcases compound with rfl | rfl
      · rfl
      · rfl
    rw [parts] at negated
    constructor
    · rw [negated, ← negatedLeaves_eq_nil_iff]
      exact List.append_right_eq_self
    · intro leaf single
      rw [negated, single, negatedLeaves]
  · intro text leaf within
    obtain ⟨rest, left⟩ := Nat.exists_eq_add_of_lt within
    have level : levels - e.wrapping = rest + 1 := by omega
    have single : e.stripped.leafConditions .predicate = [text] := by
      rw [leafConditions, leaf]
      rfl
    rw [negated, level, conditionsWithin_of_condition? leaf, single, negatedLeaves]

/-- `NOT (a = 1)` makes one condition, and `NOT (a = 1 OR b = 1)` makes none. -/
theorem conditions_walk_not_sample :
    let equality (name : String) : Expr :=
      .binary (.column [] ⟨name, none⟩) (.compare .eq) (.constant "1")
    let both : Expr := .binary (equality "a") .or (equality "b")
    let r : Reach := ⟨[], 0, 9⟩
    let s := Scope.start .select ""
    let negation (e : Expr) : Walk := (Expr.unary .not (.nested e)).walk .predicate
    (negation (equality "a") r s).footprint.conditions = ["NOT a = 1"] ∧
      (negation both r s).footprint.conditions = [] := by
  intro equality both r s negation
  have leaf : (equality "a").condition? = some "a = 1" := by decide +kernel
  have several : ((equality "a").conditionsWithin .predicate 7 ++
      (equality "b").conditionsWithin .predicate 7).length ≠ 1 := by decide +kernel
  constructor
  · exact (conditions_walk_not (.nested (equality "a")) r s).2 "a = 1" leaf (by decide)
  · exact ((conditions_walk_not (.nested both) r s).1 _ _ _ rfl (.inr rfl)).1.2 several

/-- `NOT (a = 1 AND b)` makes a condition, though it does not say that `a = 1` is false. -/
theorem conditions_walk_not_and :
    let equality : Expr := .binary (.column [] ⟨"a", none⟩) (.compare .eq) (.constant "1")
    let both : Expr := .binary equality .and (.column [] ⟨"b", none⟩)
    let r : Reach := ⟨[], 0, 9⟩
    let s := Scope.start .select ""
    let negation : Walk := (Expr.unary .not (.nested both)).walk .predicate
    (negation r s).footprint.conditions = ["NOT a = 1"] ∧ s.footprint.conditions = [] := by
  decide +kernel

end Expr

end Sql

end SqlFootprint
