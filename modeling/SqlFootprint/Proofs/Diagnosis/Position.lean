import Mathlib.Data.List.Infix
import SqlFootprint.Diagnosis.SourceError
import SqlFootprint.Proofs.Text.Runs
import SqlFootprint.Sql.Token

/-!
# The place that a message names

The first mark of a message counts, wherever it stands. A message ends with the mark that the reader
of statements sets, but what comes before it quotes the source text, which may hold a mark as well.
No mark goes on from the one into the other, so the place of an error is the right one exactly if
the text before holds no mark, or if its first mark names the same place.
-/

namespace SqlFootprint

namespace PositionMark

/-! ## Marks at the start of a text -/

/-- A text goes on with a run of digits and then with something else. -/
structure IsRun (ds rest : List Char) : Prop where
  ne_nil : ds ≠ []
  digit : ∀ c ∈ ds, Text.isDecimalDigit c
  ends : ∀ c ∈ rest.head?, ¬Text.isDecimalDigit c

/-- A text starts with a mark, whose numbers are as long as can be. The colon after the second word
may be missing. -/
def Opens (m : PositionMark) (cs : List Char) : Prop :=
  ∃ between ∈ [", Column ", ", Column: "], ∃ rest,
    cs = "Line: ".toList ++ (m.line ++ (between.toList ++ (m.column ++ rest))) ∧
      IsRun m.line between.toList ∧ IsRun m.column rest

variable {cs ds rest : List Char} {m : PositionMark}

/-- Where a run ends is told by the character after it. -/
theorem IsRun.congr (h : IsRun ds rest) {rest' : List Char} (same : rest'.head? = rest.head?) :
    IsRun ds rest' :=
  ⟨h.ne_nil, h.digit, by rw [same]; exact h.ends⟩

theorem digits_eq_some_iff : digits cs = some (ds, rest) ↔ cs = ds ++ rest ∧ IsRun ds rest := by
  unfold digits
  constructor
  · intro h
    split at h
    · cases h
    · rename_i notNil
      obtain ⟨whole, digit, ends⟩ := Text.span_eq_iff.1 (Option.some.inj h)
      refine ⟨whole, ?_, digit, ends⟩
      rintro rfl
      exact notNil rest (Option.some.inj h)
  · rintro ⟨whole, run⟩
    rw [Text.span_eq_iff.2 ⟨whole, run.digit, run.ends⟩]
    split
    · rename_i same
      exact absurd (Prod.mk.inj same).1 run.ne_nil
    · rfl

/-- The colon before a blank is skipped if there is one. -/
theorem blank_append_eq_iff : " ".toList ++ rest = (":".toList.isPrefixOf? cs).getD cs ↔
    cs = " ".toList ++ rest ∨ cs = ": ".toList ++ rest := by
  cases h : ":".toList.isPrefixOf? cs with
  | none =>
    have noColon : cs ≠ ": ".toList ++ rest := by
      rintro rfl
      cases h
    rw [Option.getD_none, eq_comm, or_iff_left noColon]
  | some after =>
    obtain rfl := List.isPrefixOf?_eq_some_iff_append_eq.1 h
    simp [eq_comm]

theorem atStart?_eq_some_iff : atStart? cs = some m ↔ m.Opens cs := by
  unfold atStart?
  simp only [Option.bind_eq_bind, Option.bind_eq_some_iff, List.isPrefixOf?_eq_some_iff_append_eq,
    digits_eq_some_iff, Option.pure_def, Option.some.injEq, Prod.exists, blank_append_eq_iff]
  constructor
  · rintro ⟨_, rfl, line, _, ⟨rfl, lineRun⟩, _, rfl, _, colon, column, rest, ⟨rfl, columnRun⟩, rfl⟩
    rcases colon with rfl | rfl
    · exact ⟨", Column ", by simp, rest, rfl, lineRun.congr rfl, columnRun⟩
    · exact ⟨", Column: ", by simp, rest, rfl, lineRun.congr rfl, columnRun⟩
  · rintro ⟨between, colon, rest, rfl, lineRun, columnRun⟩
    refine ⟨_, rfl, m.line, _, ⟨rfl, ?_⟩, ?_⟩
    all_goals
      simp only [List.mem_cons, List.not_mem_nil, or_false] at colon
      rcases colon with rfl | rfl
    · exact lineRun.congr rfl
    · exact lineRun.congr rfl
    · exact ⟨_, rfl, _, .inl rfl, m.column, rest, ⟨rfl, columnRun⟩, rfl⟩
    · exact ⟨_, rfl, _, .inr rfl, m.column, rest, ⟨rfl, columnRun⟩, rfl⟩

theorem not_opens_nil : ¬m.Opens [] := by
  rintro ⟨_, _, _, h, -⟩
  cases h

/-! ## The first mark of a text -/

/-- A mark stands somewhere in a text, and none stands before it. -/
def IsFirstIn (m : PositionMark) (cs : List Char) : Prop :=
  ∃ k, m.Opens (cs.drop k) ∧ ∀ j < k, ∀ n : PositionMark, ¬n.Opens (cs.drop j)

theorem find?_eq_some_iff : find? cs = some m ↔ m.IsFirstIn cs := by
  induction cs with
  | nil =>
    refine iff_of_false nofun ?_
    rintro ⟨k, h, -⟩
    rw [List.drop_nil] at h
    exact not_opens_nil h
  | cons c cs ih =>
    rw [find?, Option.or_eq_some_iff, Option.eq_none_iff_forall_ne_some, ih]
    simp only [ne_eq, atStart?_eq_some_iff]
    constructor
    · rintro (here | ⟨notHere, k, there, first⟩)
      · exact ⟨0, here, nofun⟩
      · refine ⟨k + 1, there, fun j hj ↦ ?_⟩
        cases j with
        | zero => exact notHere
        | succ j => exact first j (Nat.lt_of_succ_lt_succ hj)
    · rintro ⟨k, there, first⟩
      cases k with
      | zero => exact .inl there
      | succ k =>
        exact .inr ⟨first 0 k.succ_pos, k, there, fun j hj ↦ first (j + 1) (Nat.succ_lt_succ hj)⟩

/-! ## Marks at the end of a message -/

theorem IsRun.not_mem (h : IsRun ds rest) {d : Char} (hd : ¬Text.isDecimalDigit d) : d ∉ ds :=
  fun mem ↦ hd (h.digit d mem)

/-- A mark neither goes on in a text that starts so nor is it longer there: it has no `a`, and it
ends with a digit. -/
theorem Opens.of_append {tail : List Char} (h : m.Opens (cs ++ (" a".toList ++ tail))) :
    m.Opens cs := by
  obtain ⟨between, colon, rest, whole, lineRun, columnRun⟩ := h
  have noA : 'a' ∉ "Line: ".toList ++ (m.line ++ (between.toList ++ m.column)) := by
    have noDigit : ¬Text.isDecimalDigit 'a' := by decide
    have words : ∀ b ∈ [", Column ", ", Column: "], 'a' ∉ b.toList := by decide
    simp only [List.mem_append, not_or]
    exact ⟨by decide, lineRun.not_mem noDigit, words between colon, columnRun.not_mem noDigit⟩
  have split : ("Line: ".toList ++ (m.line ++ (between.toList ++ m.column))) ++ rest =
      cs ++ (" a".toList ++ tail) := by
    rw [whole]
    simp only [List.append_assoc]
  obtain ⟨cut, mark, after⟩ | ⟨cut, mark, after⟩ := List.append_eq_append_iff.1 split
  · refine ⟨between, colon, cut, ?_, lineRun, columnRun.ne_nil, columnRun.digit, ?_⟩
    · rw [mark]
      simp only [List.append_assoc]
    · intro c hc
      refine columnRun.ends c ?_
      rw [after, List.head?_append, Option.mem_def.1 hc]
      rfl
  · match cut, after with
    | [], _ =>
      refine ⟨between, colon, [], ?_, lineRun, columnRun.ne_nil, columnRun.digit, nofun⟩
      rw [List.append_nil] at mark
      rw [← mark, List.append_nil]
    | [c], after =>
      obtain ⟨init, d, last⟩ := (List.eq_nil_or_concat m.column).resolve_left columnRun.ne_nil
      have blank : c = ' ' := (List.cons.inj after).1.symm
      have same : d = c := by
        rw [last] at mark
        simp only [List.concat_eq_append, ← List.append_assoc] at mark
        exact List.singleton_injective (List.append_inj' mark rfl).2
      have digit := columnRun.digit d (by simp [last])
      rw [same, blank] at digit
      exact absurd digit (by decide)
    | c :: d :: cut, after =>
      have letter : d = 'a' := (List.cons.inj (List.cons.inj after).2).1.symm
      refine absurd ?_ noA
      rw [mark, letter]
      simp

theorem Opens.append {tail : List Char} (h : m.Opens cs)
    (ends : ∀ c ∈ tail.head?, ¬Text.isDecimalDigit c) : m.Opens (cs ++ tail) := by
  obtain ⟨between, colon, rest, rfl, lineRun, columnRun⟩ := h
  refine ⟨between, colon, rest ++ tail, by simp only [List.append_assoc], lineRun,
    columnRun.ne_nil, columnRun.digit, ?_⟩
  cases rest with
  | nil => exact ends
  | cons c rest => exact columnRun.ends

theorem atStart?_append (cs tail : List Char) :
    atStart? (cs ++ (" a".toList ++ tail)) = atStart? cs := by
  ext m
  simp only [atStart?_eq_some_iff]
  refine ⟨Opens.of_append, fun h ↦ h.append ?_⟩
  rintro c ⟨⟩
  decide

/-- A text that goes on so has its own first mark, or else that of what follows. -/
theorem find?_append (cs tail : List Char) :
    find? (cs ++ (" a".toList ++ tail)) = (find? cs).or (find? (" a".toList ++ tail)) := by
  induction cs with
  | nil => rfl
  | cons c cs ih =>
    have here := atStart?_append (c :: cs) tail
    rw [List.cons_append] at here ⊢
    rw [find?, find?, here, ih, Option.or_assoc]

/-! ## Numbers -/

/-- The mark of two numbers. -/
def ofNumbers (line column : Nat) : PositionMark :=
  ⟨Nat.toDigits 10 line, Nat.toDigits 10 column⟩

theorem isRun_toDigits (n : Nat) (ends : ∀ c ∈ rest.head?, ¬Text.isDecimalDigit c) :
    IsRun (Nat.toDigits 10 n) rest where
  ne_nil := Nat.toDigits_ne_nil
  digit _ hc := Text.isDecimalDigit_of_isDigit (Text.isDigit_of_mem_toDigits hc)
  ends := ends

theorem number?_toDigits {n : Nat} (h : n < UInt64.size) :
    number? (Nat.toDigits 10 n) = some n := by
  have digits : (Nat.toDigits 10 n).all Char.isDigit :=
    List.all_eq_true.2 fun c ↦ Text.isDigit_of_mem_toDigits
  have value : (Nat.toDigits 10 n).foldl (fun n c ↦ 10 * n + (c.toNat - 48)) 0 = n :=
    Nat.ofDigitChars_toDigits (by decide) (by decide)
  rw [number?, if_pos digits, value]
  exact if_pos h

theorem value?_ofNumbers {line column : Nat} (hl : line < UInt64.size) (hc : column < UInt64.size) :
    (ofNumbers line column).value? = some (line, column) := by
  rw [value?, ofNumbers, number?_toDigits hl, number?_toDigits hc]
  rfl

theorem suffix_toList (place : Sql.Position) : place.suffix.toList =
    " at ".toList ++ ("Line: ".toList ++ (Nat.toDigits 10 place.line ++
      (", Column: ".toList ++ Nat.toDigits 10 place.column))) := by
  simp only [Sql.Position.suffix, String.toList_append, Nat.toList_repr, List.append_assoc,
    toString]
  rfl

/-- The text that tells a place holds a mark of this place, behind four characters. -/
theorem find?_suffix (place : Sql.Position) :
    find? place.suffix.toList = some (ofNumbers place.line place.column) := by
  rw [find?_eq_some_iff, suffix_toList]
  have comma : ∀ c ∈ (", Column: ".toList ++ Nat.toDigits 10 place.column).head?,
      ¬Text.isDecimalDigit c := by
    rintro c ⟨⟩
    decide
  refine ⟨4, ⟨", Column: ", by simp, [], ?_, isRun_toDigits _ comma,
    isRun_toDigits _ nofun⟩, ?_⟩
  · simp only [ofNumbers, List.append_nil]
    rfl
  · rintro j hj n ⟨between, -, rest, starts, -⟩
    have behind : j = 0 ∨ j = 1 ∨ j = 2 ∨ j = 3 := by omega
    rcases behind with rfl | rfl | rfl | rfl
    all_goals exact absurd (List.cons.inj starts).1 (by decide)

/-- A message that ends with a place has the first mark of what comes before, or else that place. -/
theorem find?_message (before : String) (place : Sql.Position) :
    find? (before ++ place.suffix).toList =
      (find? before.toList).or (some (ofNumbers place.line place.column)) := by
  rw [String.toList_append, ← find?_suffix, suffix_toList]
  exact find?_append _ _

end PositionMark

namespace SourceError

/-! ## The place of an error -/

/-- An error is at a place, and so is its diagnostic for a file. -/
structure PointsAt (e : SourceError) (place : Sql.Position) (file : String) : Prop where
  position : ∃ message, e = malformed message (some (place.line, place.column))
  location : (e.toDiagnostic file).location.map Location.render =
    some s!"{file}:{place.line}:{place.column}"

theorem pointsAt_malformed_iff {message file : String} {position : Option (Nat × Nat)}
    {place : Sql.Position} :
    (malformed message position).PointsAt place file ↔
      position = some (place.line, place.column) := by
  constructor
  · rintro ⟨⟨_, ⟨⟩⟩, -⟩
    rfl
  · rintro rfl
    exact ⟨⟨message, rfl⟩, rfl⟩

/-- An error whose message ends with a place is at this place exactly if the text before holds no
mark or one whose numbers are the same; the first mark of that text decides. -/
theorem ofMessage_pointsAt_iff (before file : String) {place : Sql.Position}
    (hl : place.line < UInt64.size) (hc : place.column < UInt64.size) :
    ((ofMessage (before ++ place.suffix)).PointsAt place file ↔
      ∀ m : PositionMark, m.IsFirstIn before.toList →
        m.value? = some (place.line, place.column)) ∧
    ∀ m : PositionMark, m.IsFirstIn before.toList →
      ofMessage (before ++ place.suffix) = malformed (before ++ place.suffix) m.value? := by
  simp only [← PositionMark.find?_eq_some_iff, ofMessage, PositionMark.find?_message,
    pointsAt_malformed_iff]
  cases PositionMark.find? before.toList with
  | none => simp [PositionMark.value?_ofNumbers hl hc]
  | some m => simp [eq_comm]

theorem ofMessage_pointsAt_sample :
    let before := "sql parser error: Expected: an expression, found: FROM"
    let place : Sql.Position := ⟨2, 8⟩
    (place.line < UInt64.size ∧ place.column < UInt64.size) ∧
      (ofMessage (before ++ place.suffix)).PointsAt place "a.sql" := by
  intro before place
  have hl : place.line < UInt64.size := by decide
  have hc : place.column < UInt64.size := by decide
  have noMark : PositionMark.find? before.toList = none := by decide +kernel
  refine ⟨⟨hl, hc⟩, (ofMessage_pointsAt_iff before "a.sql" hl hc).1.2 fun m hm ↦ ?_⟩
  rw [← PositionMark.find?_eq_some_iff, noMark] at hm
  cases hm

/-- An error at line 1, column 29, where the source text has a string that looks like a mark, is
taken to be at line 7, column 9. -/
theorem not_ofMessage_pointsAt :
    let before := "sql parser error: Expected: end of statement, found: 'Line: 7, Column: 9'"
    let place : Sql.Position := ⟨1, 29⟩
    ofMessage (before ++ place.suffix) = malformed (before ++ place.suffix) (some (7, 9)) ∧
      ¬∀ (before file : String) (place : Sql.Position), place.line < UInt64.size →
        place.column < UInt64.size → (ofMessage (before ++ place.suffix)).PointsAt place file := by
  intro before place
  have wrong : ofMessage (before ++ place.suffix) =
      malformed (before ++ place.suffix) (some (7, 9)) := by decide +kernel
  refine ⟨wrong, fun h ↦ ?_⟩
  have right := h before "a.sql" place (by decide) (by decide)
  rw [wrong, pointsAt_malformed_iff] at right
  exact absurd right (by decide)

end SourceError

end SqlFootprint
