import SqlFootprint.Proofs.Extraction.Conditions

/-!
# Chains of `AND` and of `OR`

Operands that are joined by one connective make a chain, whichever two of them are joined first. A
chain takes no level of its own: it is walked as its operands are, one after the other and from the
level that it is on, however many there are.

An expression can be taken apart into the operands of its chain without recursion, by a stack of
what is still to be looked at. That gives the operands in the order in which they are written.
-/

namespace SqlFootprint

/-! ## Notices of findings -/

/-- The notices among findings, with those of the footprints that are nested in them. -/
def Findings.allNotices (a : Findings) : List Notice :=
  a.notices ++ (a.ctes ++ a.subqueries).flatMap Footprint.allNotices

theorem Footprint.mem_allNotices_add {f : Footprint} {a : Findings} {n : Notice} :
    n ∈ (f.add a).allNotices ↔ n ∈ f.allNotices ∨ n ∈ a.allNotices := by
  simp only [allNotices_eq, children, add, Findings.allNotices, List.mem_append,
    List.flatMap_append, mem_foldl_addNew]
  tauto

namespace Walk

theorem all_append (vs ws : List Walk) (r : Reach) (s : Scope) :
    all (vs ++ ws) r s = all ws r (all vs r s) := by
  induction vs generalizing s with
  | nil => rfl
  | cons v vs ih => exact ih (v r s)

/-- A walk that enters no relations. -/
def Staying (w : Walk) : Prop :=
  ∀ r visible, ∃ found, Finds w r visible found []

namespace Staying

variable {w : Walk} {r : Reach} {s t : Scope}

theorem visible_eq (h : Staying w) (r : Reach) (t : Scope) : (w r t).visible = t.visible := by
  obtain ⟨found, finds⟩ := h r t.visible
  rw [finds.eq t.footprint, List.append_nil]

/-- A notice that is new comes from the walk, and would come from it in any footprint. -/
theorem mem_allNotices (h : Staying w) (same : t.visible = s.visible) {n : Notice}
    (kept : n ∈ s.footprint.allNotices → n ∈ t.footprint.allNotices) :
    n ∈ (w r t).footprint.allNotices ↔
      n ∈ t.footprint.allNotices ∨ n ∈ (w r s).footprint.allNotices := by
  obtain ⟨found, finds⟩ := h r s.visible
  have walked (u : Scope) (hu : u.visible = s.visible) :
      n ∈ (w r u).footprint.allNotices ↔ n ∈ u.footprint.allNotices ∨ n ∈ found.allNotices := by
    obtain ⟨f, visible⟩ := u
    subst hu
    rw [finds.eq f]
    exact Footprint.mem_allNotices_add
  rw [walked t same, walked s rfl]
  tauto

end Staying

/-- Notices come from the walks one by one, and each would come from its walk alone. -/
theorem mem_allNotices_all {ws : List Walk} (h : ∀ w ∈ ws, Staying w) {r : Reach} {s t : Scope}
    (same : t.visible = s.visible) {n : Notice}
    (kept : n ∈ s.footprint.allNotices → n ∈ t.footprint.allNotices) :
    n ∈ (all ws r t).footprint.allNotices ↔
      n ∈ t.footprint.allNotices ∨ ∃ w ∈ ws, n ∈ (w r s).footprint.allNotices := by
  induction ws generalizing t with
  | nil => simp [all, skip]
  | cons w ws ih =>
    obtain ⟨staying, rest⟩ := List.forall_mem_cons.1 h
    have first : n ∈ (w r t).footprint.allNotices ↔ _ := staying.mem_allNotices same kept
    have later := ih rest ((staying.visible_eq r t).trans same) (fun hn ↦ first.2 (.inl (kept hn)))
    rw [all, later, first, List.exists_mem_cons_iff, or_assoc]

end Walk

namespace Sql

/-- What joins the operands of a chain. -/
inductive Connective where
  | and
  | or
deriving DecidableEq, Repr

def Connective.op : Connective → BinaryOp
  | and => .and
  | or => .or

namespace Expr

/-- Some operands, joined by one connective in their order and in any two of them first, make an
expression. The operands may be any expressions, also chains. -/
inductive IsChain (c : Connective) : List Expr → Expr → Prop
  | operand (e : Expr) : IsChain c [e] e
  | join {ds es : List Expr} {left right : Expr} :
      IsChain c ds left → IsChain c es right → IsChain c (ds ++ es) (.binary left c.op right)

/-- The operands of a chain, the left ones first. -/
def operands (op : BinaryOp) : Expr → List Expr
  | .binary left op' right =>
    if op' = op then left.operands op ++ right.operands op else [.binary left op' right]
  | e => [e]

/-- The operands of the chains on a stack. Of a chain on top both sides go back to the stack, the
left one on top of the right one. -/
def operandsOnStack (op : BinaryOp) : List Expr → List Expr
  | [] => []
  | .binary left op' right :: pending =>
    if op' = op then operandsOnStack op (left :: right :: pending)
    else .binary left op' right :: operandsOnStack op pending
  | e :: pending => e :: operandsOnStack op pending
termination_by pending => sizeOf pending
decreasing_by
  · cases op' <;> simp <;> omega
  all_goals rw [List.cons.sizeOf_spec]; omega

theorem operandsOnStack_eq (op : BinaryOp) (pending : List Expr) :
    operandsOnStack op pending = pending.flatMap (operands op) := by
  fun_induction operandsOnStack op pending with
  | case1 => rfl
  | case2 left right pending ih =>
    rw [ih, List.flatMap_cons, List.flatMap_cons, List.flatMap_cons, operands, if_pos rfl,
      List.append_assoc]
  | case3 left op' right pending other ih =>
    rw [ih, List.flatMap_cons, operands, if_neg other, List.singleton_append]
  | case4 e pending plain ih =>
    have single : e.operands op = [e] := by
      unfold operands
      split
      · exact absurd rfl (plain _ _ _)
      · rfl
    rw [ih, List.flatMap_cons, single, List.singleton_append]

variable {c : Connective} {es es' : List Expr} {e e' : Expr}

theorem walk_join (m : Mode) (c : Connective) (left right : Expr) :
    (binary left c.op right).walk m = .all [left.walk m, right.walk m] := by
  cases c <;> rfl

theorem walk_staying (m : Mode) (e : Expr) : (e.walk m).Staying := by
  intro r visible
  obtain ⟨found, finds, -⟩ := e.walk_gathers m r visible
  exact ⟨found, finds⟩

namespace IsChain

theorem ne_nil (h : IsChain c es e) : es ≠ [] := by
  induction h with
  | operand e => exact List.cons_ne_nil e []
  | join _ _ left _ => exact List.append_ne_nil_of_left_ne_nil left _

/-- The operands of an expression make a chain of it. -/
theorem of_operands (c : Connective) (e : Expr) : IsChain c (e.operands c.op) e := by
  fun_induction operands c.op e with
  | case1 left right ihl ihr => exact .join ihl ihr
  | case2 left op right => exact .operand _
  | case3 e => exact .operand e

theorem operands_eq (h : IsChain c es e) : e.operands c.op = es.flatMap (operands c.op) := by
  induction h with
  | operand e => exact (List.flatMap_singleton _ e).symm
  | join _ _ left right => rw [operands, if_pos rfl, left, right, List.flatMap_append]

/-- How the operands are joined leaves no trace. -/
theorem walk_eq (h : IsChain c es e) (m : Mode) (r : Reach) (s : Scope) :
    e.walk m r s = Walk.all (es.map (·.walk m)) r s := by
  induction h generalizing s with
  | operand e => rfl
  | @join ds es left right _ _ ihl ihr =>
    rw [List.map_append, Walk.all_append, ← ihl, ← ihr, walk_join]
    rfl

/-- A chain is walked as its operands are, one after the other from the level that it is on. The
same comes of operands that are chains of the same connective and are taken apart on a stack. Two
chains of the same operands are walked alike, and a chain gives a notice, say that something was
nested too deep, only if one of its operands would give it alone. -/
theorem walk_operands (h : IsChain c es e) (m : Mode) (r : Reach) (s : Scope) :
    e.walk m r s = Walk.all (es.map (·.walk m)) r s ∧
      (∀ e', IsChain c es e' → e'.walk m r s = e.walk m r s) ∧
      operandsOnStack c.op [e] = es.flatMap (operands c.op) ∧
      e.walk m r s = Walk.all ((operandsOnStack c.op [e]).map (·.walk m)) r s ∧
      ∀ n, n ∈ (e.walk m r s).footprint.allNotices ↔
        ∃ d ∈ es, n ∈ (d.walk m r s).footprint.allNotices := by
  have stack : operandsOnStack c.op [e] = e.operands c.op := by
    rw [operandsOnStack_eq, List.flatMap_singleton]
  refine ⟨h.walk_eq m r s, fun e' h' ↦ (h'.walk_eq m r s).trans (h.walk_eq m r s).symm,
    stack.trans h.operands_eq, ?_, fun n ↦ ?_⟩
  · rw [stack]
    exact (of_operands c e).walk_eq m r s
  · have staying : ∀ w ∈ es.map (·.walk m), w.Staying :=
      List.forall_mem_map.2 fun d _ ↦ d.walk_staying m
    have given := Walk.mem_allNotices_all staying (rfl : s.visible = s.visible) (r := r)
      (n := n) id
    have before (hn : n ∈ s.footprint.allNotices) (d : Expr) :
        n ∈ (d.walk m r s).footprint.allNotices :=
      ((d.walk_staying m).mem_allNotices rfl id).2 (.inl hn)
    obtain ⟨d, hd⟩ := List.exists_mem_of_ne_nil es h.ne_nil
    rw [h.walk_eq, given]
    simp only [List.mem_map, exists_exists_and_eq_and]
    exact ⟨(·.elim (fun hn ↦ ⟨d, hd, before hn d⟩) id), .inr⟩

/-- `a AND b OR c OR d` is walked as `a AND b OR (c OR d)` without the parentheses is. -/
theorem walk_operands_sample :
    let name (text : String) : Expr := .column [] ⟨text, none⟩
    let both : Expr := .binary (name "a") .and (name "b")
    let r : Reach := ⟨[], 0, 1⟩
    let s := Scope.start .select ""
    let first := (binary (.binary both .or (name "c")) .or (name "d")).walk .predicate r s
    let last := (binary both .or (.binary (name "c") .or (name "d"))).walk .predicate r s
    last = first ∧ first.footprint.allNotices = [] := by
  intro name both r s first last
  have left : IsChain .or [both, name "c", name "d"]
      (.binary (.binary both .or (name "c")) .or (name "d")) :=
    .join (.join (.operand _) (.operand _)) (.operand _)
  have right : IsChain .or [both, name "c", name "d"]
      (.binary both .or (.binary (name "c") .or (name "d"))) :=
    .join (.operand _) (.join (.operand _) (.operand _))
  obtain ⟨-, alike, -, -, notices⟩ := left.walk_operands .predicate r s
  refine ⟨alike _ right, List.eq_nil_iff_forall_not_mem.2 fun n hn ↦ ?_⟩
  obtain ⟨d, hd, hn⟩ := (notices n).1 hn
  have none : ∀ d ∈ [both, name "c", name "d"],
      (d.walk .predicate r s).footprint.allNotices = [] := by
    decide +kernel
  rw [none d hd] at hn
  cases hn

end IsChain

end Expr

end Sql

end SqlFootprint
