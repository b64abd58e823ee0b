import SqlFootprint.Proofs.Extraction.Conditions
import SqlFootprint.Proofs.Sql.Outline

/-!
# The leaves of a clause

A `WHERE` clause is built from leaves, such as comparisons and tests for `NULL`, by `AND` and `OR`,
parentheses, casts and operators on one operand. As long as nothing is negated, each of its leaves
makes exactly one condition, in the order in which they are written, and nothing else makes any.

A condition reads as its leaf does, except that an operand that is tested stands under its plain
name if it is a column. What it is tested against stands as it is written.
-/

namespace SqlFootprint.Sql.Expr

/-! ## Leaves -/

/-- The expressions that make conditions. -/
def isLeaf : Expr → Bool
  | .binary _ (.compare _) _ => true
  | .nullTest _ _ => true
  | .distinctTest _ _ _ => true
  | .quantified _ _ _ _ => true
  | .between _ _ _ _ => true
  | .inList _ _ _ => true
  | .pattern .like _ _ _ _ _ => true
  | .pattern .ilike _ _ _ _ _ => true
  | _ => false

/-- The leaves that an expression is built from. Those inside an operand of a leaf, a call, a `CASE`
or a query are not among them. -/
def leaves : Expr → List Expr
  | .binary left .and right => left.leaves ++ right.leaves
  | .binary left .or right => left.leaves ++ right.leaves
  | .unary _ operand => operand.leaves
  | .nested inner => inner.leaves
  | .cast _ operand _ _ => operand.leaves
  | .braced inner => inner.leaves
  | e => if e.isLeaf then [e] else []

/-- No leaf is below a negation. -/
def isUnnegated : Expr → Bool
  | .binary left .and right => left.isUnnegated && right.isUnnegated
  | .binary left .or right => left.isUnnegated && right.isUnnegated
  | .unary .not _ => false
  | .unary _ operand => operand.isUnnegated
  | .nested inner => inner.isUnnegated
  | .cast _ operand _ _ => operand.isUnnegated
  | .braced inner => inner.isUnnegated
  | _ => true

/-- How many levels lead to the leaves. `AND` and `OR` take none. -/
def leafLevels : Expr → Nat
  | .binary left .and right => max left.leafLevels right.leafLevels
  | .binary left .or right => max left.leafLevels right.leafLevels
  | .unary _ operand => operand.leafLevels + 1
  | .nested inner => inner.leafLevels + 1
  | .cast _ operand _ _ => operand.leafLevels + 1
  | .braced inner => inner.leafLevels
  | _ => 1

/-! ## Leaves as conditions -/

/-- An operand that is tested: a column, in any number of parentheses, under its plain name. -/
def bare (e : Expr) : Expr :=
  match e.stripped with
  | .column _ name => .column [] ⟨name.text, none⟩
  | _ => e

/-- A leaf as its condition reads. -/
def conditionForm : Expr → Expr
  | .binary left (.compare c) right => .binary left.bare (.compare c) right.bare
  | .nullTest operand negated => .nullTest operand.bare negated
  | .distinctTest left negated right => .distinctTest left.bare negated right.bare
  | .quantified left op quantifier right => .quantified left.bare op quantifier right
  | .between operand negated low high => .between operand.bare negated low high
  | .inList operand negated items => .inList operand.bare negated items
  | .pattern kind operand negated _ against _ =>
    .pattern kind operand.bare negated false against none
  | e => e

theorem columnRef?_stripped (e : Expr) : e.stripped.columnRef? = e.columnRef? := by
  fun_induction stripped e with
  | case1 inner ih => exact ih
  | case2 e plain => rfl

theorem stripped_of_columnRef? {e : Expr} {c : ColumnRef} (h : e.columnRef? = some c) :
    ∃ path name, e.stripped = .column path name ∧ name.text = c.column := by
  fun_induction columnRef? e with
  | case1 path name =>
    cases h
    exact ⟨path, name, rfl, rfl⟩
  | case2 inner ih => exact ih h
  | case3 => cases h

theorem render_bare (e : Expr) : e.bare.render = e.operandText := by
  unfold bare operandText
  cases he : e.columnRef? with
  | some c =>
    obtain ⟨path, name, shape, text⟩ := stripped_of_columnRef? he
    rw [shape]
    exact text
  | none =>
    split
    · rename_i path name shape
      rw [← columnRef?_stripped, shape] at he
      cases he
    · rfl

theorem condition?_eq_ite (e : Expr) :
    e.condition? = if e.isLeaf then some e.conditionForm.render else none := by
  cases e with
  | binary left op right =>
    cases op with
    | compare c =>
      simp only [condition?, conditionForm, render, render_bare, BinaryOp.render]
      rfl
    | and | or | other spelling => rfl
  | quantified left op quantifier right =>
    simp only [condition?, conditionForm, render_quantified, render_bare]
    rfl
  | nullTest operand negated | distinctTest left negated right | between operand negated low high
  | inList operand negated items =>
    simp only [condition?, conditionForm, render, render_bare]
    rfl
  | pattern kind operand negated any against escape =>
    cases kind <;> simp [condition?, isLeaf, conditionForm, render, render_bare,
      PatternKind.render, String.append_assoc]
  | _ => rfl

theorem leafConditions_predicate (e : Expr) : e.leafConditions .predicate =
    (if e.isLeaf then [e] else []).map fun leaf ↦ leaf.conditionForm.render := by
  have own : e.leafConditions .predicate = e.condition?.toList := rfl
  rw [own, condition?_eq_ite]
  split <;> rfl

/-- Of enough levels, one leads below. -/
theorem exists_below_eq {levels needed : Nat} (h : needed + 1 ≤ levels) :
    ∃ rest, needed ≤ rest ∧ ∀ conditions, below conditions levels = conditions rest := by
  obtain ⟨rest, rfl⟩ := Nat.exists_eq_add_of_le' (Nat.le_of_add_left_le h)
  exact ⟨rest, Nat.le_of_succ_le_succ h, fun _ ↦ rfl⟩

theorem conditionsWithin_of_isUnnegated {e : Expr} {levels : Nat} (unnegated : e.isUnnegated)
    (within : e.leafLevels ≤ levels) : e.conditionsWithin .predicate levels =
      e.leaves.map fun leaf ↦ leaf.conditionForm.render := by
  fun_induction conditionsWithin .predicate e generalizing levels with
  | case1 left right ihl ihr | case2 left right ihl ihr =>
    obtain ⟨ul, ur⟩ := Bool.and_eq_true_iff.1 unnegated
    obtain ⟨wl, wr⟩ := Nat.max_le.1 within
    rw [leaves, List.map_append, ← ihl ul wl, ← ihr ur wr]
  | case3 operand ih => cases unnegated
  | case4 _ operand ih | case5 _ operand ih | case6 operand ih | case7 _ operand _ _ ih =>
    obtain ⟨rest, enough, same⟩ := exists_below_eq within
    rw [same, ih unnegated enough, leaves]
  | case8 inner ih => exact ih unnegated within
  | case9 e noAnd noOr noNot noPrefix noSuffix noNested noCast noBraced =>
    have noUnary (op : UnaryOp) (operand : Expr) : e ≠ .unary op operand := by
      rintro rfl
      cases op with
      | not => exact noNot operand rfl
      | before spelling => exact noPrefix spelling operand rfl
      | after spelling => exact noSuffix spelling operand rfl
    have single : e.leafLevels = 1 := by simp only [leafLevels]
    have own : e.leaves = if e.isLeaf then [e] else [] := by simp only [leaves]
    obtain ⟨rest, -, same⟩ := exists_below_eq (single ▸ within)
    rw [same, own, leafConditions_predicate]

/-- A clause without negations, the leaves of which are within the levels that are left, makes
exactly the conditions of its leaves, in their order. -/
theorem conditions_walk_of_isUnnegated {e : Expr} {r : Reach} (unnegated : e.isUnnegated)
    (within : r.depth + e.leafLevels ≤ r.limit) (s : Scope) :
    (e.walk .predicate r s).footprint.conditions =
      s.footprint.conditions ++ e.leaves.map fun leaf ↦ leaf.conditionForm.render := by
  rw [conditions_walk, conditionsWithin_of_isUnnegated unnegated (Nat.le_sub_of_add_le' within)]

/-- `t.a = 1 AND (f(b = 2) OR t.c IN (t.d))` has two leaves, and the one in the call is not among
them. -/
theorem conditions_walk_of_isUnnegated_sample :
    let column (name : String) : Expr := .column [⟨"t", none⟩] ⟨name, none⟩
    let equality (left : Expr) (right : String) : Expr :=
      .binary left (.compare .eq) (.constant right)
    let call : Expr := .call [⟨"f", none⟩] .none
      (.list "" [.value (equality (.column [] ⟨"b", none⟩) "2")] []) [] none "" .none
    let e : Expr := .binary (equality (column "a") "1") .and
      (.nested (.binary call .or (.inList (column "c") false [column "d"])))
    let s := (Scope.start .select "").edit (·.addCondition "k IS NULL")
    (e.walk .predicate ⟨[], 7, 9⟩ s).footprint.conditions =
      ["k IS NULL", "a = 1", "c IN (t.d)"] := by
  intro column equality call e s
  have made := conditions_walk_of_isUnnegated (e := e) (r := ⟨[], 7, 9⟩) rfl (by decide) s
  rw [made]
  decide +kernel

/-- In `a BETWEEN t.lo AND t.hi` the bounds keep their qualifiers. Of `a LIKE 'x' ESCAPE '!'` the
last clause is left out, and a quoted column loses its quotes. -/
theorem conditions_walk_not_as_written :
    let a : Expr := .column [] ⟨"a", none⟩
    let bound (name : String) : Expr := .column [⟨"t", none⟩] ⟨name, none⟩
    let range (low high : Expr) : Expr := .between a false low high
    let like : Expr := .pattern .like a false false (.constant "'x'") (some "!")
    let quoted : Expr := .binary (.column [] ⟨"B", some '"'⟩) (.compare .eq) (.constant "1")
    let conditions (e : Expr) : List String :=
      (e.walk .predicate ⟨[], 0, 9⟩ (.start .select "")).footprint.conditions
    (conditions (range (bound "lo") (bound "hi")) = ["a BETWEEN t.lo AND t.hi"] ∧
      (range (bound "lo").bare (bound "hi").bare).render = "a BETWEEN lo AND hi") ∧
    (conditions like = ["a LIKE 'x'"] ∧ like.render = "a LIKE 'x' ESCAPE '!'") ∧
    conditions quoted = ["B = 1"] ∧ quoted.render = "\"B\" = 1" := by
  decide +kernel

end SqlFootprint.Sql.Expr
