import Mathlib.Data.List.Basic
import SqlFootprint.Proofs.Toml.Reading

/-!
# Reading back scalars

A string between quotes and a number in digits, as they stand at the end of a line, are read as what
they were written for. A number is tried as a time, in another base and as a special float first, so
these readers have to fail: each of them asks for a character that is neither a digit nor a line
break.
-/

namespace SqlFootprint.Toml.Read

variable {α β : Type} {r : Read α} {f : α → Read β} {cs rest : List Char}

/-! ## Strings -/

/-- A character that stands for itself in a string between double quotes. -/
def IsPlainChar (c : Char) : Prop :=
  isPlain c ∧ c ≠ '"' ∧ c ≠ '\\'

instance (c : Char) : Decidable (IsPlainChar c) :=
  inferInstanceAs (Decidable (_ ∧ _))

theorem yields_basicString {s : List Char} (plain : ∀ c ∈ s, IsPlainChar c) (rest : List Char) :
    Yields basicString ('"' :: (s ++ '"' :: rest)) (.ofList s) rest := by
  refine (yields_one '"' _).bind (Yields.bind (Repeats.many (repeats_chars ?_ ?_))
    ((yields_one '"' rest).bind (yields_pure _ _)))
  · intro c hc cs
    obtain ⟨hp, quote, escape⟩ := plain c hc
    refine (yields_satisfy (by simp [hp, quote]) cs).bind ?_
    rw [if_neg (by simp [escape])]
    exact yields_pure _ _
  · exact (fails_satisfy (by simp)).bind _

/-- A string at the end of a line. An empty one is not taken for the start of one of several
lines. -/
theorem yields_string {s : List Char} (plain : ∀ c ∈ s, IsPlainChar c) (rest : List Char) :
    Yields string ('"' :: (s ++ '"' :: '\n' :: rest)) (.ofList s) ('\n' :: rest) := by
  have basic := yields_basicString plain ('\n' :: rest)
  refine (yields_get _).bind ?_
  cases s with
  | nil => exact basic
  | cons c s =>
    obtain ⟨-, quote, -⟩ := plain c List.mem_cons_self
    split
    · rename_i same
      exact absurd (List.cons.inj (List.cons.inj same).2).1 quote
    · exact basic
    · rename_i same
      cases same
    · rename_i _ other _
      exact absurd rfl (other _)

/-! ## Numbers -/

/-- A text goes on with digits up to the end of its line. -/
def Numeric (cs : List Char) : Prop :=
  ∃ ds rest, (∀ c ∈ ds, c.isDigit) ∧ cs = ds ++ '\n' :: rest

theorem Numeric.head (h : Numeric cs) : ∀ c ∈ cs.head?, c.isDigit ∨ c = '\n' := by
  obtain ⟨ds, rest, digit, rfl⟩ := h
  intro c hc
  cases ds with
  | nil => exact .inr (Option.some.inj hc).symm
  | cons d ds =>
    obtain rfl : d = c := Option.some.inj hc
    exact .inl (digit d List.mem_cons_self)

theorem Numeric.tail {c : Char} (h : Numeric (c :: cs)) (hc : c.isDigit) : Numeric cs := by
  obtain ⟨ds, rest, digit, whole⟩ := h
  cases ds with
  | nil =>
    obtain rfl : c = '\n' := (List.cons.inj whole).1
    exact absurd hc (by decide)
  | cons d ds => exact ⟨ds, rest, (List.forall_mem_cons.1 digit).2, (List.cons.inj whole).2⟩

/-- A reader that asks for something else than a digit or a line break. -/
theorem Numeric.fails_satisfy {p : Char → Bool} (h : Numeric cs) (digit : ∀ c, c.isDigit → ¬p c)
    (lineBreak : ¬p '\n') : Fails (satisfy p) cs := by
  refine Read.fails_satisfy fun c hc ↦ ?_
  rcases h.head c hc with hd | rfl
  · exact digit c hd
  · exact lineBreak

theorem Numeric.not_mem_head? {c : Char} (h : Numeric cs) (digit : ¬c.isDigit)
    (lineBreak : c ≠ '\n') : c ∉ cs.head? := by
  intro hc
  rcases h.head c hc with hd | same
  · exact digit hd
  · exact lineBreak same

theorem Numeric.fails_one {c : Char} (h : Numeric cs) (digit : ¬c.isDigit) (lineBreak : c ≠ '\n') :
    Fails (one c) cs :=
  Read.fails_one (h.not_mem_head? digit lineBreak)

theorem Numeric.fails_text {s : String} {c : Char} {tail : List Char} (h : Numeric cs)
    (starts : s.toList = c :: tail) (digit : ¬c.isDigit) (lineBreak : c ≠ '\n') :
    Fails (text s) cs :=
  Read.fails_text starts (h.not_mem_head? digit lineBreak)

/-- A reader that takes digits only. -/
def TakesDigits (r : Read α) : Prop :=
  ∀ cs a rest, Numeric cs → Yields r cs a rest → Numeric rest

theorem TakesDigits.bind_fails (h : TakesDigits r) (k : ∀ a cs, Numeric cs → Fails (f a) cs)
    (hcs : Numeric cs) : Fails (r >>= f) cs := by
  cases hr : r cs with
  | none => exact Fails.bind hr f
  | some p => exact Yields.bind_fails hr (k _ _ (h _ _ _ hcs hr))

theorem TakesDigits.bind (h : TakesDigits r) (k : ∀ a, TakesDigits (f a)) :
    TakesDigits (r >>= f) := by
  intro cs b rest hcs yields
  obtain ⟨⟨a, mid⟩, hr, hf⟩ := Option.bind_eq_some_iff.1 yields
  exact k a mid b rest (h cs a mid hcs hr) hf

theorem takesDigits_pure (a : α) : TakesDigits (pure a) := by
  rintro cs _ _ hcs ⟨⟩
  exact hcs

theorem takesDigits_digit : TakesDigits (satisfy Char.isDigit) := by
  intro cs c rest hcs yields
  cases cs with
  | nil => cases yields
  | cons d cs =>
    by_cases hd : d.isDigit
    · obtain ⟨⟩ := (yields_satisfy hd cs).symm.trans yields
      exact hcs.tail hd
    · cases (Read.fails_satisfy (by simpa using hd)).symm.trans yields

theorem takesDigits_bounded (count low high : Nat) : TakesDigits (bounded count low high) := by
  have digits : TakesDigits ((List.replicate count ()).mapM fun _ ↦ satisfy Char.isDigit) := by
    induction count with
    | zero => exact takesDigits_pure _
    | succ count ih =>
      rw [List.replicate_succ, List.mapM_cons]
      exact takesDigits_digit.bind fun _ ↦ ih.bind fun _ ↦ takesDigits_pure _
  refine digits.bind fun ds ↦ ?_
  dsimp only
  split
  · exact takesDigits_pure _
  · exact fun _ _ _ _ ↦ nofun

theorem Numeric.fails_time (h : Numeric cs) : Fails time cs := by
  have date : Fails dateTime cs :=
    Fails.bind ((takesDigits_bounded 4 0 9999).bind_fails
      (fun _ _ hcs ↦ (hcs.fails_one (by decide) (by decide)).bind _) h) _
  refine (yields_get cs).bind_fails (date.optional.bind_fails ?_)
  exact Fails.bind ((takesDigits_bounded 2 0 23).bind_fails
    (fun _ _ hcs ↦ (hcs.fails_one (by decide) (by decide)).bind _) h) _

theorem Numeric.fails_radixInteger (h : Numeric cs) : Fails radixInteger cs := by
  cases cs with
  | nil => exact (Read.fails_one (by simp)).bind _
  | cons c cs =>
    by_cases zero : c = '0'
    · subst zero
      refine (yields_one '0' cs).bind_fails (Fails.bind ?_ _)
      refine (h.tail (by decide)).fails_satisfy (fun c hc letter ↦ ?_) (by decide)
      simp only [Bool.or_eq_true, beq_iff_eq] at letter
      rcases letter with (rfl | rfl) | rfl <;> exact absurd hc (by decide)
    · exact (Read.fails_one (by simpa using fun same ↦ zero same)).bind _

theorem Numeric.yields_sign (h : Numeric cs) : Yields sign cs [] cs :=
  (h.fails_one (c := '+') (by decide) (by decide)).accept.bind
    ((h.fails_one (c := '-') (by decide) (by decide)).accept.bind (yields_pure [] cs))

theorem Numeric.fails_specialFloat (h : Numeric cs) : Fails specialFloat cs := by
  have inf : Fails (text "inf") cs := h.fails_text rfl (by decide) (by decide)
  have nan : Fails (text "nan") cs := h.fails_text rfl (by decide) (by decide)
  exact h.yields_sign.bind_fails (inf.accept.bind_fails (nan.bind _))

theorem numeric_lineEnd (rest : List Char) : Numeric ('\n' :: rest) :=
  ⟨[], rest, nofun, rfl⟩

theorem numeric_append {ds : List Char} (digit : ∀ c ∈ ds, c.isDigit) (rest : List Char) :
    Numeric (ds ++ '\n' :: rest) :=
  ⟨ds, rest, digit, rfl⟩

theorem yields_digitRun {ds : List Char} (some : ds ≠ []) (digit : ∀ c ∈ ds, c.isDigit)
    (rest : List Char) :
    Yields (digitRun Char.isDigit) (ds ++ '\n' :: rest) ds ('\n' :: rest) := by
  obtain ⟨d, ds, rfl⟩ := List.exists_cons_of_ne_nil some
  obtain ⟨hd, hds⟩ := List.forall_mem_cons.1 digit
  refine (yields_satisfy hd _).bind (Yields.bind (Repeats.many (repeats_chars ?_ ?_))
    (yields_pure _ _))
  · intro c hc cs
    have noScore : '_' ∉ (c :: cs).head? := by
      rintro ⟨⟩
      exact absurd (hds '_' hc) (by decide)
    exact (Read.fails_one noScore).accept.bind (yields_satisfy (hds c hc) cs)
  · have end_ : Numeric ('\n' :: rest) := numeric_lineEnd rest
    exact (end_.fails_one (c := '_') (by decide) (by decide)).accept.bind_fails
      (Read.fails_satisfy (by simp))

theorem hexValue?_of_isDigit {c : Char} (h : c.isDigit) :
    (hexValue? c).getD 0 = c.toNat - '0'.toNat := by
  have range : '0' ≤ c ∧ c ≤ '9' := by simpa [Char.isDigit, Char.le_def] using h
  rw [hexValue?, if_pos (by simpa using range)]
  rfl

theorem valueIn_toDigits (n : Nat) : valueIn 10 (Nat.toDigits 10 n) = n :=
  calc valueIn 10 (Nat.toDigits 10 n)
      = Nat.ofDigitChars 10 (Nat.toDigits 10 n) 0 := List.foldl_ext _ _ _ fun n c hc ↦ by
        rw [hexValue?_of_isDigit (Text.isDigit_of_mem_toDigits hc)]
    _ = n := Nat.ofDigitChars_toDigits (by decide) (by decide)

theorem yields_integerOf {n : Nat} (h : n < 0x8000000000000000) (cs : List Char) :
    Yields (integerOf n) cs (.integer n) cs := by
  rw [integerOf, if_pos]
  · exact yields_pure _ _
  · rw [Bool.and_eq_true, decide_eq_true_iff, decide_eq_true_iff]
    omega

/-- A number that is written without a zero in front is not refused for one. -/
theorem not_padded_toDigits (n : Nat) :
    ¬((Nat.toDigits 10 n).head? == some '0' && (Nat.toDigits 10 n).length != 1) := by
  by_cases zero : n = 0
  · rw [zero]
    decide
  · simp [Text.head?_toDigits_ne zero]

theorem yields_decimal {n : Nat} (h : n < 0x8000000000000000) (rest : List Char) :
    Yields decimal (Nat.toDigits 10 n ++ '\n' :: rest) (.integer n) ('\n' :: rest) := by
  have digit : ∀ c ∈ Nat.toDigits 10 n, c.isDigit := fun c ↦ Text.isDigit_of_mem_toDigits
  have end_ : Numeric ('\n' :: rest) := numeric_lineEnd rest
  refine (numeric_append digit rest).yields_sign.bind
    ((yields_digitRun Nat.toDigits_ne_nil digit rest).bind ?_)
  rw [if_neg (not_padded_toDigits n)]
  refine (Fails.optional ((end_.fails_one (by decide) (by decide)).bind _)).bind ?_
  refine (Fails.optional (Fails.bind (end_.fails_satisfy ?_ (by decide)) _)).bind ?_
  · intro c hc letter
    simp only [Bool.or_eq_true, beq_iff_eq] at letter
    rcases letter with rfl | rfl <;> exact absurd hc (by decide)
  · dsimp only
    rw [valueIn_toDigits]
    exact yields_integerOf h _

/-! ## Values -/

theorem yields_scalar_string {s : List Char} (plain : ∀ c ∈ s, IsPlainChar c) (rest : List Char) :
    Yields scalar ('"' :: (s ++ '"' :: '\n' :: rest)) (.string (.ofList s)) ('\n' :: rest) :=
  (yields_next? _).bind ((yields_string plain rest).bind (yields_pure _ _))

theorem yields_scalar_integer {n : Nat} (h : n < 0x8000000000000000) (rest : List Char) :
    Yields scalar (Nat.toDigits 10 n ++ '\n' :: rest) (.integer n) ('\n' :: rest) := by
  have numeric : Numeric (Nat.toDigits 10 n ++ '\n' :: rest) :=
    numeric_append (fun c ↦ Text.isDigit_of_mem_toDigits) rest
  refine (yields_next? _).bind ?_
  split
  · rename_i starts
    exact absurd starts (numeric.not_mem_head? (by decide) (by decide))
  · rename_i starts
    exact absurd starts (numeric.not_mem_head? (by decide) (by decide))
  · rename_i starts
    exact absurd starts (numeric.not_mem_head? (by decide) (by decide))
  · rename_i starts
    exact absurd starts (numeric.not_mem_head? (by decide) (by decide))
  · have others : ∀ r ∈ [time, radixInteger, specialFloat],
        Fails r (Nat.toDigits 10 n ++ '\n' :: rest) := by
      simp only [List.forall_mem_cons]
      exact ⟨numeric.fails_time, numeric.fails_radixInteger, numeric.fails_specialFloat, nofun⟩
    refine Yields.bind (yields_forIn fun r hr ↦ (others r hr).optional.bind ?_)
      (yields_decimal h rest)
    exact yields_pure (ForInStep.yield ((none : Option Toml), ())) _

end SqlFootprint.Toml.Read
