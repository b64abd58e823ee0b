import Mathlib.Data.List.Induction
import Mathlib.Data.String.Basic
import SqlFootprint.Schema.NameMap

/-!
# The keys of a map

Entries that are put in one by one stand in the order of their keys, and each key stands there once.
So what such a map holds is what its look-up finds, and the map of some entries holds the last one
of each key.
-/

namespace SqlFootprint

/-- An item that comes last is the last one that fits if it fits. -/
theorem findRev?_concat {α : Type} (p : α → Bool) (l : List α) (a : α) :
    (l ++ [a]).findRev? p = if p a then some a else l.findRev? p := by
  rw [List.findRev?_eq_find?_reverse, List.findRev?_eq_find?_reverse, List.reverse_append,
    List.reverse_singleton, List.singleton_append, List.find?_cons]
  cases p a <;> rfl

/-- The last item that fits is the last one of any part that holds all that fit. -/
theorem findRev?_filter_of_imp {α : Type} {p q : α → Bool} (h : ∀ a, p a → q a) (l : List α) :
    (l.filter q).findRev? p = l.findRev? p := by
  have both : (fun a ↦ decide (q a = true ∧ p a = true)) = p := by
    funext a
    rw [Bool.eq_iff_iff, decide_eq_true_iff]
    exact and_iff_right_of_imp (h a)
  rw [List.findRev?_eq_find?_reverse, List.findRev?_eq_find?_reverse, ← List.filter_reverse,
    List.find?_filter, both]

namespace NameMap

variable {α : Type} {key : String} {a : α} {m : NameMap α}

def keys (m : NameMap α) : List String :=
  m.map Prod.fst

/-- The keys of a map are in their order, each once. -/
def InOrder (m : NameMap α) : Prop :=
  m.keys.Pairwise (· < ·)

theorem InOrder.nodup_keys (h : m.InOrder) : m.keys.Nodup :=
  h.imp ne_of_lt

/-! ## Keys and entries -/

theorem mem_keys_insert {k : String} : k ∈ (insert key a m).keys ↔ k = key ∨ k ∈ m.keys := by
  induction m with
  | nil => exact List.mem_cons
  | cons e m ih =>
    obtain ⟨k', b⟩ := e
    rw [insert]
    split_ifs with same before
    · -- The new entry stands instead of one with its key.
      have same : key = k' := beq_iff_eq.1 same
      subst same
      simp [keys]
    · simp [keys]
    · simp only [keys, List.map_cons, List.mem_cons] at ih ⊢
      rw [ih, or_left_comm]

theorem InOrder.insert (h : m.InOrder) (key : String) (a : α) : (NameMap.insert key a m).InOrder := by
  induction m with
  | nil => exact List.pairwise_singleton _ _
  | cons e m ih =>
    obtain ⟨k, b⟩ := e
    obtain ⟨first, rest⟩ := List.pairwise_cons.1 h
    rw [NameMap.insert]
    split_ifs with same before
    · have same : key = k := beq_iff_eq.1 same
      subst same
      exact h
    · refine List.pairwise_cons.2 ⟨fun k' hk' ↦ ?_, h⟩
      obtain rfl | later := List.mem_cons.1 hk'
      · exact before
      · exact before.trans (first k' later)
    · refine List.pairwise_cons.2 ⟨fun k' hk' ↦ ?_, ih rest⟩
      obtain rfl | later := mem_keys_insert.1 hk'
      · have other : k' ≠ k := fun same' ↦ same (beq_iff_eq.2 same')
        exact lt_of_le_of_ne (not_lt.1 before) other.symm
      · exact first k' later

/-- A map that is in order holds what is found in it. -/
theorem InOrder.mem_iff (h : m.InOrder) : (key, a) ∈ m ↔ m.get? key = some a := by
  induction m with
  | nil => simp
  | cons e m ih =>
    obtain ⟨k, b⟩ := e
    obtain ⟨first, rest⟩ := List.pairwise_cons.1 h
    rw [get?, List.mem_cons, ih rest]
    split_ifs with same
    · have same : k = key := beq_iff_eq.1 same
      subst same
      -- The key is before all others, so the rest does not hold it.
      have absent : get? k m ≠ some a := fun found ↦
        lt_irrefl k (first k (List.mem_map_of_mem ((ih rest).2 found)))
      simp [absent, eq_comm (a := a)]
    · have other : key ≠ k := fun same' ↦ same (beq_iff_eq.2 same'.symm)
      simp [other]

theorem mem_keys_iff : key ∈ m.keys ↔ (m.get? key).isSome := by
  induction m with
  | nil => simp [keys]
  | cons e m ih =>
    obtain ⟨k, b⟩ := e
    simp only [keys, List.map_cons, List.mem_cons, get?] at ih ⊢
    rw [ih]
    split_ifs with same
    · simp [beq_iff_eq.1 same]
    · have other : key ≠ k := fun same' ↦ same (beq_iff_eq.2 same'.symm)
      simp [other]

/-! ## Maps of some entries -/

theorem ofList_concat (entries : List (String × α)) (key : String) (a : α) :
    ofList (entries ++ [(key, a)]) = insert key a (ofList entries) :=
  List.foldl_concat ..

theorem inOrder_ofList (entries : List (String × α)) : (ofList entries).InOrder := by
  induction entries using List.reverseRecOn with
  | nil => exact List.Pairwise.nil
  | append_singleton entries e ih =>
    rw [ofList_concat]
    exact ih.insert _ _

theorem get?_ofList (entries : List (String × α)) (key : String) :
    (ofList entries).get? key = (entries.findRev? (·.1 == key)).map (·.2) := by
  induction entries using List.reverseRecOn with
  | nil => rfl
  | append_singleton entries e ih =>
    rw [ofList_concat, get?_insert, findRev?_concat, ih]
    by_cases same : e.1 = key
    · rw [if_pos same, if_pos (beq_iff_eq.2 same), Option.map_some]
    · rw [if_neg same, if_neg (mt beq_iff_eq.1 same)]

/-- A key after all others goes to the end. -/
theorem insert_eq_concat (h : ∀ k ∈ m.keys, k < key) : insert key a m = m ++ [(key, a)] := by
  induction m with
  | nil => rfl
  | cons e m ih =>
    obtain ⟨k, b⟩ := e
    obtain ⟨first, others⟩ := List.forall_mem_cons.1 h
    have other : ¬(key == k) := fun same ↦ absurd first (by rw [beq_iff_eq.1 same]; exact lt_irrefl k)
    rw [insert, if_neg other, if_neg (lt_asymm first), ih others, List.cons_append]

/-- The map of entries that are in order is these entries. -/
theorem InOrder.ofList_eq (h : m.InOrder) : ofList m = m := by
  induction m using List.reverseRecOn with
  | nil => rfl
  | append_singleton m e ih =>
    rw [InOrder, keys, List.map_append, List.pairwise_append] at h
    obtain ⟨before, -, after⟩ := h
    rw [ofList_concat, ih before]
    exact insert_eq_concat fun k hk ↦ after k hk e.1 (List.mem_singleton.2 rfl)

end NameMap

end SqlFootprint
