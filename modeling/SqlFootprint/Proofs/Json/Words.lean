import SqlFootprint.Json.Printer
import SqlFootprint.Json.Reader
import SqlFootprint.Proofs.Text.Runs

/-!
# Reading back words

Printed strings, numbers and the blanks between lines are read as what they were printed from. A
number ends where the text goes on with nothing that a number may go on with.
-/

namespace SqlFootprint.Json

/-! ## Blanks -/

theorem skipSpace_of_not_isSpace {c : Char} (h : ¬isSpace c) (cs : List Char) :
    skipSpace (c :: cs) = c :: cs :=
  List.dropWhile_cons_of_neg h

theorem lineBreak_toList (level : Nat) :
    (lineBreak level).toList = '\n' :: List.replicate (2 * level) ' ' := by
  simp [lineBreak]

theorem skipSpace_lineBreak (level : Nat) (cs : List Char) :
    skipSpace ((lineBreak level).toList ++ cs) = skipSpace cs := by
  have blank : ∀ c ∈ (lineBreak level).toList, isSpace c := by
    rw [lineBreak_toList]
    intro c hc
    obtain rfl | hc := List.mem_cons.1 hc
    · decide
    · rw [List.eq_of_mem_replicate hc]
      decide
  exact List.dropWhile_append_of_pos blank

/-! ## Strings -/

theorem hexValue?_hexDigit : ∀ n < 16, hexValue? (hexDigit n) = some n := by
  decide

theorem escapedChar?_hexDigits {c : Char} (h : c.toNat < 0x20) (cs : List Char) :
    escapedChar? ('0' :: '0' :: hexDigit (c.toNat / 16) :: hexDigit (c.toNat % 16) :: cs) =
      some (c, cs) := by
  have high := hexValue?_hexDigit (c.toNat / 16) (by omega)
  have low := hexValue?_hexDigit (c.toNat % 16) (by omega)
  have zero : hexValue? '0' = some 0 := by decide
  have unit : codeUnit? ('0' :: '0' :: hexDigit (c.toNat / 16) :: hexDigit (c.toNat % 16) :: cs) =
      some (c.toNat, cs) := by
    simp only [codeUnit?, zero, high, low, Option.bind_eq_bind, Option.bind_some, Option.pure_def]
    congr 2
    omega
  unfold escapedChar?
  rw [unit]
  have plain : ¬(0xD800 ≤ c.toNat ∧ c.toNat < 0xDC00) ∧ ¬(0xDC00 ≤ c.toNat ∧ c.toNat < 0xE000) := by
    omega
  simp [plain, Char.ofNat_toNat]

/-- The letter behind a backslash names the character. -/
theorem stringBody?_escape {c letter : Char} (known : escapeLetter? letter = some c) (n : Nat)
    (done cs : List Char) :
    stringBody? (n + 1) done ('\\' :: letter :: cs) = stringBody? n (c :: done) cs := by
  have notU : letter ≠ 'u' := by
    rintro rfl
    exact absurd known (by simp [escapeLetter?])
  simp [stringBody?, known, notU]

theorem stringBody?_escapeChar (c : Char) (n : Nat) (done cs : List Char) :
    stringBody? (n + 1) done (escapeChar c ++ cs) = stringBody? n (c :: done) cs := by
  unfold escapeChar
  split_ifs with quote slash control back tab feed form ret
  · rw [beq_iff_eq] at quote
    subst quote
    exact stringBody?_escape rfl n done cs
  · rw [beq_iff_eq] at slash
    subst slash
    exact stringBody?_escape rfl n done cs
  · have same : c = .ofNat 8 := by rw [← Char.ofNat_toNat c, beq_iff_eq.1 back]
    subst same
    exact stringBody?_escape rfl n done cs
  · rw [beq_iff_eq] at tab
    subst tab
    exact stringBody?_escape rfl n done cs
  · rw [beq_iff_eq] at feed
    subst feed
    exact stringBody?_escape rfl n done cs
  · have same : c = .ofNat 12 := by rw [← Char.ofNat_toNat c, beq_iff_eq.1 form]
    subst same
    exact stringBody?_escape rfl n done cs
  · rw [beq_iff_eq] at ret
    subst ret
    exact stringBody?_escape rfl n done cs
  · simp [stringBody?, escapedChar?_hexDigits control]
  · simp [stringBody?, quote, slash, control]

/-- A text is read from between its quotes. -/
theorem stringBody?_escaped {n : Nat} (done text rest : List Char) (enough : text.length < n) :
    stringBody? n done (text.flatMap escapeChar ++ '"' :: rest) =
      some (.ofList (done.reverse ++ text), rest) := by
  induction text generalizing n done with
  | nil =>
    obtain ⟨n, rfl⟩ := Nat.exists_eq_add_of_lt enough
    simp [stringBody?]
  | cons c text ih =>
    cases n with
    | zero => cases enough
    | succ n =>
      rw [List.flatMap_cons, List.append_assoc, stringBody?_escapeChar,
        ih (c :: done) (Nat.lt_of_succ_lt_succ enough)]
      simp

theorem escapeChar_ne_nil (c : Char) : escapeChar c ≠ [] := by
  unfold escapeChar
  split_ifs <;> exact List.cons_ne_nil _ _

theorem length_le_length_escaped (text : List Char) :
    text.length ≤ (text.flatMap escapeChar).length := by
  induction text with
  | nil => exact Nat.le_refl 0
  | cons c text ih =>
    have := List.length_pos_iff.2 (escapeChar_ne_nil c)
    rw [List.flatMap_cons, List.length_append, List.length_cons]
    omega

theorem quote_toList (s : String) :
    (quote s).toList = '"' :: (s.toList.flatMap escapeChar ++ ['"']) := by
  simp [quote]

theorem string?_quote (s : String) (rest : List Char) :
    string? ((quote s).toList ++ rest) = some (s, rest) := by
  have enough := length_le_length_escaped s.toList
  rw [quote_toList, List.cons_append, List.append_assoc, string?, List.singleton_append,
    stringBody?_escaped [] s.toList rest]
  · rw [List.reverse_nil, List.nil_append, String.ofList_toList]
  · rw [List.length_append]
    omega

/-! ## Numbers -/

/-- No text of a number goes on with what starts so. -/
def EndsNumber (rest : List Char) : Prop :=
  ∀ c ∈ rest.head?, ¬c.isDigit ∧ c ≠ '.' ∧ c ≠ 'e' ∧ c ≠ 'E'

theorem digits_append {ds rest : List Char} (hd : ∀ c ∈ ds, c.isDigit)
    (hr : ∀ c ∈ rest.head?, ¬c.isDigit) : digits (ds ++ rest) = (ds, rest) :=
  Text.span_eq_iff.2 ⟨rfl, hd, hr⟩

theorem fraction?_of_ends {rest : List Char} (h : EndsNumber rest) :
    fraction? rest = some ([], rest) := by
  unfold fraction?
  split
  · exact absurd rfl (h '.' rfl).2.1
  · rfl

theorem exponent?_of_ends {rest : List Char} (h : EndsNumber rest) :
    exponent? rest = some ([], rest) := by
  unfold exponent?
  cases rest with
  | nil => rfl
  | cons c cs =>
    obtain ⟨-, -, small, capital⟩ := h c rfl
    simp [small, capital]

theorem number?_toDigits (n : Nat) {rest : List Char} (h : EndsNumber rest) :
    number? (Nat.toDigits 10 n ++ rest) = some (.natural n, rest) := by
  have digit : ∀ c ∈ Nat.toDigits 10 n, c.isDigit := fun c ↦ Text.isDigit_of_mem_toDigits
  have run : digits (Nat.toDigits 10 n ++ rest) = (Nat.toDigits 10 n, rest) :=
    digits_append digit fun c hc ↦ (h c hc).1
  have value : digitsValue (Nat.toDigits 10 n) = n :=
    Nat.ofDigitChars_toDigits (by decide) (by decide)
  have canonical : ((Nat.toDigits 10 n).isEmpty || ((Nat.toDigits 10 n).head? == some '0' &&
      (Nat.toDigits 10 n).length != 1)) = false := by
    by_cases zero : n = 0
    · rw [zero]
      rfl
    · simp [Text.head?_toDigits_ne zero]
  have unsigned : ∀ cs, Nat.toDigits 10 n ++ rest ≠ '-' :: cs := by
    intro cs starts
    cases hd : Nat.toDigits 10 n with
    | nil => exact absurd hd Nat.toDigits_ne_nil
    | cons c ds =>
      rw [hd] at starts digit
      have : c = '-' := (List.cons.inj starts).1
      exact absurd (digit c List.mem_cons_self) (by rw [this]; decide)
  unfold number?
  split
  rename_i sign whole same
  split at same
  · exact absurd ‹_› (unsigned _)
  · obtain ⟨rfl, rfl⟩ := Prod.mk.inj same
    simp [run, canonical, fraction?_of_ends h, exponent?_of_ends h, value]

end SqlFootprint.Json
