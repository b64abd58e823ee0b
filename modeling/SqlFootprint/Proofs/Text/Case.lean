import SqlFootprint.Text.Case

/-!
# Full lower case and the case of ASCII letters

The full lower case of a text is the same however its ASCII letters are written: each has one lower
case, and the rule for a final sigma asks of a letter only what both of its cases have in common.
So names that are one up to the case of ASCII letters are one up to case.
-/

namespace SqlFootprint.Text

/-! ## Characters -/

/-- A character is its own ASCII lower case unless it is a capital letter. -/
theorem toLower_eq_or (c : Char) :
    c.toLower = c ∨ ∃ n < 26, c.toNat = 65 + n ∧ c.toLower.toNat = 97 + n := by
  by_cases h : c.val ≥ 'A'.val ∧ c.val ≤ 'Z'.val
  · right
    obtain ⟨low, high⟩ : 65 ≤ c.toNat ∧ c.toNat ≤ 90 := h
    have lowered : ∀ n < 26, (Char.ofNat (65 + n)).toLower.toNat = 97 + n := by decide
    have same := lowered (c.toNat - 65) (by omega)
    rw [Nat.add_sub_cancel' low, Char.ofNat_toNat] at same
    exact ⟨c.toNat - 65, by omega, by omega, same⟩
  · exact .inl (dif_neg h)

theorem toLower_toLower (c : Char) : c.toLower.toLower = c.toLower := by
  obtain same | ⟨n, hn, upper, lower⟩ := toLower_eq_or c
  · rw [same, same]
  · obtain same | ⟨m, hm, upper', -⟩ := toLower_eq_or c.toLower
    · exact same
    · omega

theorem isCased_toLower (c : Char) : isCased c.toLower = isCased c := by
  have table : ∀ n < 26, casedRanges.any (fun r ↦ r.1 ≤ 97 + n && 97 + n ≤ r.2) =
      casedRanges.any fun r ↦ r.1 ≤ 65 + n && 65 + n ≤ r.2 := by decide +kernel
  obtain same | ⟨n, hn, upper, lower⟩ := toLower_eq_or c
  · rw [same]
  · unfold isCased
    rw [upper, lower]
    exact table n hn

/-- No range of the table holds a letter of ASCII. -/
theorem not_isCaseIgnorable_of_letter {c : Char}
    (h : 65 ≤ c.toNat ∧ c.toNat ≤ 90 ∨ 97 ≤ c.toNat ∧ c.toNat ≤ 122) : ¬isCaseIgnorable c := by
  have table : ∀ r ∈ caseIgnorableRanges, r.2 < 65 ∨ 90 < r.1 ∧ r.2 < 97 ∨ 122 < r.1 := by
    decide +kernel
  unfold isCaseIgnorable
  rw [List.any_eq_true]
  rintro ⟨r, hr, within⟩
  obtain ⟨low, high⟩ : r.1 ≤ c.toNat ∧ c.toNat ≤ r.2 := by simpa using within
  have apart := table r hr
  omega

theorem isCaseIgnorable_toLower (c : Char) : isCaseIgnorable c.toLower = isCaseIgnorable c := by
  obtain same | ⟨n, hn, upper, lower⟩ := toLower_eq_or c
  · rw [same]
  · have first : ¬isCaseIgnorable c := not_isCaseIgnorable_of_letter (by omega)
    have second : ¬isCaseIgnorable c.toLower := not_isCaseIgnorable_of_letter (by omega)
    rw [Bool.eq_false_iff.2 first, Bool.eq_false_iff.2 second]

theorem leadsToCased_map_toLower (cs : List Char) :
    leadsToCased (cs.map Char.toLower) = leadsToCased cs := by
  have skips : isCaseIgnorable ∘ Char.toLower = isCaseIgnorable :=
    funext isCaseIgnorable_toLower
  unfold leadsToCased
  rw [List.dropWhile_map, skips]
  cases cs.dropWhile isCaseIgnorable with
  | nil => rfl
  | cons c rest => exact isCased_toLower c

theorem lowerChar_map_toLower (before : List Char) (c : Char) (after : List Char) :
    lowerChar (before.map Char.toLower) c.toLower (after.map Char.toLower) =
      lowerChar before c after := by
  unfold lowerChar
  simp only [leadsToCased_map_toLower]
  obtain same | ⟨n, hn, upper, lower⟩ := toLower_eq_or c
  · rw [same, same]
  · rw [if_pos (by omega), if_pos (by omega), toLower_toLower]

/-! ## Texts -/

@[simp] theorem foldAscii_empty : foldAscii "" = "" := by
  simp [foldAscii]

theorem foldAscii_congr {a b : String}
    (h : a.toList.map Char.toLower = b.toList.map Char.toLower) : foldAscii a = foldAscii b :=
  String.toList_injective (by rw [foldAscii, foldAscii, String.toList_map, String.toList_map, h])

@[simp] theorem foldAscii_foldAscii (s : String) : foldAscii (foldAscii s) = foldAscii s := by
  have once : Char.toLower ∘ Char.toLower = Char.toLower := funext toLower_toLower
  rw [foldAscii, foldAscii, String.map_map, once]

@[simp] theorem foldAscii_comp_foldAscii : foldAscii ∘ foldAscii = foldAscii :=
  funext foldAscii_foldAscii

theorem lowerList_map_toLower (before cs : List Char) :
    lowerList (before.map Char.toLower) (cs.map Char.toLower) = lowerList before cs := by
  induction cs generalizing before with
  | nil => rfl
  | cons c cs ih =>
    rw [List.map_cons, lowerList, lowerList, lowerChar_map_toLower]
    exact congrArg _ (ih (c :: before))

/-- Full lower case takes no notice of the case of ASCII letters. -/
@[simp] theorem lower_foldAscii (s : String) : lower (foldAscii s) = lower s := by
  unfold lower foldAscii
  rw [String.toList_map]
  exact congrArg String.ofList (lowerList_map_toLower [] s.toList)

theorem lower_eq_of_sameName {a b : String} (h : sameName a b) : lower a = lower b := by
  rw [← lower_foldAscii a, sameName_iff.1 h, lower_foldAscii]

end SqlFootprint.Text
