import Mathlib.Data.List.TakeDrop
import Mathlib.Data.List.TakeWhile

/-!
# Runs of characters and numerals

A reader that takes characters as long as they pass a test takes a run of them, which ends where the
text goes on with one that fails. A number is written as a run of digits, without a zero in front.
-/

namespace SqlFootprint.Text

section Runs

variable {α : Type} {p : α → Bool} {cs run rest : List α}

theorem takeWhile_run (passes : ∀ c ∈ run, p c) (ends : ∀ c ∈ rest.head?, ¬p c) :
    (run ++ rest).takeWhile p = run := by
  rw [List.takeWhile_append_of_pos passes]
  cases rest with
  | nil => rw [List.takeWhile_nil, List.append_nil]
  | cons c rest => rw [List.takeWhile_cons_of_neg (ends c rfl), List.append_nil]

theorem dropWhile_run (passes : ∀ c ∈ run, p c) (ends : ∀ c ∈ rest.head?, ¬p c) :
    (run ++ rest).dropWhile p = rest := by
  rw [List.dropWhile_append_of_pos passes]
  cases rest with
  | nil => rfl
  | cons c rest => exact List.dropWhile_cons_of_neg (ends c rfl)

theorem not_of_mem_head?_dropWhile {c : α} (h : c ∈ (cs.dropWhile p).head?) : ¬p c := by
  have first := List.head?_dropWhile_not p cs
  rw [Option.mem_def.1 h] at first
  exact Bool.eq_false_iff.1 first

theorem span_eq_iff : cs.span p = (run, rest) ↔
    cs = run ++ rest ∧ (∀ c ∈ run, p c) ∧ ∀ c ∈ rest.head?, ¬p c := by
  rw [List.span_eq_takeWhile_dropWhile, Prod.mk.injEq]
  constructor
  · rintro ⟨rfl, rfl⟩
    exact ⟨List.takeWhile_append_dropWhile.symm, fun c ↦ List.mem_takeWhile_imp,
      fun c ↦ not_of_mem_head?_dropWhile⟩
  · rintro ⟨rfl, passes, ends⟩
    exact ⟨takeWhile_run passes ends, dropWhile_run passes ends⟩

end Runs

/-! ## Numerals -/

theorem isDigit_of_mem_toDigits {n : Nat} {c : Char} (h : c ∈ Nat.toDigits 10 n) : c.isDigit :=
  Nat.isDigit_of_mem_toDigits (by decide) (by decide) h

theorem head?_toDigits_ne {n : Nat} (h : n ≠ 0) : (Nat.toDigits 10 n).head? ≠ some '0' := by
  induction n using Nat.strongRecOn with
  | ind n ih =>
    rcases Nat.lt_or_ge n 10 with small | large
    · have table : ∀ n < 10, n ≠ 0 → [n.digitChar].head? ≠ some '0' := by decide
      rw [Nat.toDigits_of_lt_base small]
      exact table n small h
    · have first : (Nat.toDigits 10 (n / 10)).head? ≠ some '0' := ih (n / 10) (by omega) (by omega)
      rw [Nat.toDigits_of_base_le (by decide) large, List.head?_append]
      cases hd : Nat.toDigits 10 (n / 10) with
      | nil => exact absurd hd Nat.toDigits_ne_nil
      | cons c cs =>
        rw [hd] at first
        exact first

end SqlFootprint.Text
