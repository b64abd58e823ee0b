import SqlFootprint.Proofs.Text.Runs
import SqlFootprint.Toml.Document

/-!
# What readers yield

A reader yields a value of a text and leaves the rest of it, or it fails. What it does is told part
by part: one lemma for each reader says what it yields of the texts that it is meant for.
-/

namespace SqlFootprint.Toml.Read

/-- A reader yields `a` of a text and leaves `rest`. -/
def Yields {α : Type} (r : Read α) (cs : List Char) (a : α) (rest : List Char) : Prop :=
  r cs = some (a, rest)

/-- A reader does not go on a text. -/
def Fails {α : Type} (r : Read α) (cs : List Char) : Prop :=
  r cs = none

/-- A reader yields one value after the other, each of at least one character, until it fails. -/
inductive Repeats {α : Type} (r : Read α) : List Char → List α → List Char → Prop
  | stop {cs} : Fails r cs → Repeats r cs [] cs
  | step {cs a mid as rest} : Yields r cs a mid → mid.length < cs.length →
      Repeats r mid as rest → Repeats r cs (a :: as) rest

variable {α β : Type} {r : Read α} {f : α → Read β} {cs mid rest : List Char} {a : α} {b : β}

/-! ## Readers one after the other -/

theorem yields_pure (a : α) (cs : List Char) : Yields (pure a) cs a cs := rfl

theorem yields_get (cs : List Char) : Yields get cs cs cs := rfl

theorem Yields.bind (h : Yields r cs a mid) (k : Yields (f a) mid b rest) :
    Yields (r >>= f) cs b rest := by
  change (r cs).bind (fun p ↦ f p.1 p.2) = _
  rw [h]
  exact k

theorem Yields.bind_fails (h : Yields r cs a mid) (k : Fails (f a) mid) : Fails (r >>= f) cs := by
  change (r cs).bind (fun p ↦ f p.1 p.2) = _
  rw [h]
  exact k

theorem Fails.bind (h : Fails r cs) (f : α → Read β) : Fails (r >>= f) cs := by
  change (r cs).bind (fun p ↦ f p.1 p.2) = _
  rw [h]
  rfl

theorem Yields.optional (h : Yields r cs a rest) : Yields (optional r) cs (some a) rest := by
  unfold Yields Read.optional
  rw [h]

theorem Fails.optional (h : Fails r cs) : Yields (optional r) cs none cs := by
  unfold Yields Read.optional
  rw [h]

theorem Yields.accept (h : Yields r cs a rest) : Yields (accept r) cs true rest :=
  h.optional.bind (yields_pure _ _)

theorem Fails.accept (h : Fails r cs) : Yields (accept r) cs false cs :=
  h.optional.bind (yields_pure _ _)

/-- A loop that nothing ends or changes. -/
theorem yields_forIn {ι : Type} {xs : List ι} {s : β} {body : ι → β → Read (ForInStep β)}
    (h : ∀ x ∈ xs, Yields (body x s) cs (.yield s) cs) : Yields (forIn xs s body) cs s cs := by
  induction xs with
  | nil => exact yields_pure s cs
  | cons x xs ih =>
    obtain ⟨here, further⟩ := List.forall_mem_cons.1 h
    rw [List.forIn_cons]
    exact here.bind (ih further)

/-! ## Characters -/

section Characters

variable {p : Char → Bool} {c : Char} {run : List Char}

theorem yields_satisfy (h : p c) (cs : List Char) : Yields (satisfy p) (c :: cs) c cs :=
  if_pos h

theorem fails_satisfy (h : ∀ c ∈ cs.head?, ¬p c) : Fails (satisfy p) cs := by
  cases cs with
  | nil => rfl
  | cons c cs => exact if_neg (h c rfl)

theorem yields_one (c : Char) (cs : List Char) : Yields (one c) (c :: cs) () cs :=
  (yields_satisfy (p := (· == c)) (beq_self_eq_true c) cs).bind (yields_pure () cs)

theorem fails_one (h : c ∉ cs.head?) : Fails (one c) cs := by
  refine (fails_satisfy fun d hd same ↦ h ?_).bind _
  rwa [← beq_iff_eq.1 same]

/-- A fixed text is told from another one by its first character. -/
theorem fails_text {expected : String} {c : Char} {tail : List Char}
    (starts : expected.toList = c :: tail) (h : c ∉ cs.head?) : Fails (text expected) cs := by
  unfold Fails text
  rw [starts]
  cases cs with
  | nil => rfl
  | cons d cs =>
    have other : ¬c == d := by
      rw [beq_iff_eq]
      rintro rfl
      exact h rfl
    change (if c == d then tail.isPrefixOf? cs else none).map (fun rest ↦ ((), rest)) = none
    rw [if_neg other, Option.map_none]

theorem yields_next? (cs : List Char) : Yields next? cs cs.head? cs := rfl

theorem yields_takeWhile (passes : ∀ c ∈ run, p c) (ends : ∀ c ∈ rest.head?, ¬p c) :
    Yields (takeWhile p) (run ++ rest) run rest := by
  unfold Yields takeWhile
  rw [Text.takeWhile_run passes ends, Text.dropWhile_run passes ends]

theorem yields_takeWhile1 (some : run ≠ []) (passes : ∀ c ∈ run, p c)
    (ends : ∀ c ∈ rest.head?, ¬p c) : Yields (takeWhile1 p) (run ++ rest) run rest := by
  refine (yields_takeWhile passes ends).bind ?_
  rw [if_neg (by rwa [List.isEmpty_iff])]
  exact yields_pure _ _

end Characters

/-! ## Repetition -/

theorem Repeats.go {as : List α} (h : Repeats r cs as rest) {fuel : Nat} (enough : cs.length < fuel)
    (done : List α) : Yields (many.go r fuel done) cs (done.reverse ++ as) rest := by
  induction h generalizing fuel done with
  | stop fails =>
    obtain ⟨n, rfl⟩ := Nat.exists_eq_add_of_lt enough
    rw [List.append_nil]
    exact fails.optional.bind (yields_pure _ _)
  | @step cs a mid as rest yields shorter _ ih =>
    obtain ⟨n, rfl⟩ := Nat.exists_eq_add_of_lt enough
    have left : mid.length < cs.length + n := by omega
    have further := ih left (a :: done)
    rw [List.reverse_cons, List.append_assoc] at further
    exact yields.optional.bind further

theorem Repeats.many {as : List α} (h : Repeats r cs as rest) : Yields (many r) cs as rest :=
  (yields_get cs).bind (h.go (Nat.lt_succ_self _) [])

theorem Fails.many (h : Fails r cs) : Yields (many r) cs [] cs :=
  (Repeats.stop h).many

/-- A reader that yields every character of a text as it is. -/
theorem repeats_chars {r : Read Char} {run : List Char}
    (yields : ∀ c ∈ run, ∀ cs, Yields r (c :: cs) c cs) (ends : Fails r rest) :
    Repeats r (run ++ rest) run rest := by
  induction run with
  | nil => exact .stop ends
  | cons c run ih =>
    rw [List.forall_mem_cons] at yields
    exact .step (yields.1 _) (Nat.lt_succ_self _) (ih yields.2)

end SqlFootprint.Toml.Read
