import SqlFootprint.Proofs.Toml.Scalar

/-!
# Reading back lines

A line that holds the header of a table, or assigns a value to a key that needs no quotes, is read
as what it was written for, and so is a document of such lines.
-/

namespace SqlFootprint.Toml

namespace Read

variable {cs rest k v : List Char} {x : Toml}

/-! ## Ends of lines -/

theorem yields_blanks (cs : List Char) : Yields blanks cs () (cs.dropWhile isBlank) :=
  Yields.bind (a := cs.takeWhile isBlank) rfl (yields_pure () _)

theorem yields_blanks_of_head (h : ∀ c ∈ cs.head?, ¬isBlank c) : Yields blanks cs () cs := by
  have same : cs.dropWhile isBlank = cs :=
    Text.dropWhile_run (List.forall_mem_nil (isBlank · = true)) h
  have blanks := yields_blanks cs
  rwa [same] at blanks

theorem yields_newline (rest : List Char) : Yields newline ('\n' :: rest) () rest :=
  (yields_one '\n' rest).accept.bind (yields_pure () rest)

theorem yields_lineEnd (rest : List Char) : Yields lineEnd ('\n' :: rest) () rest := by
  have noComment : Fails comment ('\n' :: rest) := (fails_one (by simp)).bind _
  have more : Yields atEnd ('\n' :: rest) false ('\n' :: rest) := rfl
  exact (yields_blanks _).bind (noComment.accept.bind (more.bind (yields_newline rest)))

/-! ## Keys -/

/-- The text of a key that needs no quotes. -/
structure IsBareKey (k : List Char) : Prop where
  ne_nil : k ≠ []
  bare : ∀ c ∈ k, isBare c

theorem isBareKey_iff : IsBareKey k ↔ k.all isBare ∧ !k.isEmpty := by
  rw [List.all_eq_true, Bool.not_eq_true', List.isEmpty_eq_false_iff]
  exact ⟨fun h ↦ ⟨h.bare, h.ne_nil⟩, fun h ↦ ⟨h.2, h.1⟩⟩

instance : Decidable (IsBareKey k) :=
  decidable_of_iff _ isBareKey_iff.symm

theorem IsBareKey.isBare_head (h : IsBareKey k) {c : Char} {tail : List Char}
    (starts : k ++ cs = c :: tail) : isBare c := by
  obtain ⟨d, k, rfl⟩ := List.exists_cons_of_ne_nil h.ne_nil
  rw [← (List.cons.inj starts).1]
  exact h.bare d List.mem_cons_self

theorem IsBareKey.isBare_head? (h : IsBareKey k) {c : Char} (hc : (k ++ cs).head? = some c) :
    isBare c := by
  obtain ⟨tail, starts⟩ := List.head?_eq_some_iff.1 hc
  exact h.isBare_head starts

theorem isBare_of_isDigit {c : Char} (h : c.isDigit) : isBare c := by
  simp [isBare, Char.isAlphanum, h]

theorem not_isBlank_of_isBare {c : Char} (h : isBare c) : ¬isBlank c := by
  intro blank
  rw [isBlank, Bool.or_eq_true, beq_iff_eq, beq_iff_eq] at blank
  rcases blank with rfl | rfl <;> exact absurd h (by decide)

/-- There are no blanks before a key. -/
theorem IsBareKey.yields_blanks (h : IsBareKey k) (cs : List Char) :
    Yields blanks (k ++ cs) () (k ++ cs) :=
  yields_blanks_of_head fun _ hc ↦ not_isBlank_of_isBare (h.isBare_head? hc)

/-- A key of one part, behind which neither the part nor the key goes on. -/
theorem yields_key (h : IsBareKey k) (ends : ∀ c ∈ rest.head?, ¬isBare c)
    (noDot : '.' ∉ (rest.dropWhile isBlank).head?) : Yields key (k ++ rest) [.ofList k] rest := by
  have simple : Yields simpleKey (k ++ rest) (.ofList k) rest := by
    refine (yields_next? _).bind ?_
    split
    · rename_i starts
      exact absurd (h.isBare_head? starts) (by decide)
    · rename_i starts
      exact absurd (h.isBare_head? starts) (by decide)
    · exact (yields_takeWhile1 h.ne_nil h.bare ends).bind (yields_pure _ _)
  have single : Fails (do blanks; one '.'; blanks; simpleKey) rest :=
    (yields_blanks rest).bind_fails ((fails_one noDot).bind _)
  exact simple.bind (single.many.bind (yields_pure _ _))

/-! ## Values -/

/-- The text of a value, as it stands at the end of a line. -/
structure IsValue (v : List Char) (x : Toml) : Prop where
  yields : ∀ rest, Yields (value maxNesting) (v ++ '\n' :: rest) x ('\n' :: rest)
  starts : ∀ c ∈ v.head?, ¬isBlank c

/-- A string without characters that need an escape. -/
theorem isValue_string {s : List Char} (plain : ∀ c ∈ s, IsPlainChar c) :
    IsValue ('"' :: (s ++ ['"'])) (.string (.ofList s)) where
  yields rest := by
    rw [List.cons_append, List.append_assoc]
    exact (yields_next? _).bind (yields_scalar_string plain rest)
  starts := by simp [isBlank]

/-- A number of no more than 63 bits. -/
theorem isValue_toDigits {n : Nat} (h : n < 0x8000000000000000) :
    IsValue (Nat.toDigits 10 n) (.integer n) where
  yields rest := by
    have numeric : Numeric (Nat.toDigits 10 n ++ '\n' :: rest) :=
      numeric_append (fun c ↦ Text.isDigit_of_mem_toDigits) rest
    refine (yields_next? _).bind ?_
    split
    · rename_i starts
      exact absurd starts (numeric.not_mem_head? (by decide) (by decide))
    · rename_i starts
      exact absurd starts (numeric.not_mem_head? (by decide) (by decide))
    · exact yields_scalar_integer h rest
  starts _ hc := not_isBlank_of_isBare
    (isBare_of_isDigit (Text.isDigit_of_mem_toDigits (List.mem_of_mem_head? hc)))

/-! ## Lines -/

/-- The text of a line, with the break at its end. -/
structure IsLine (t : List Char) (l : Option Line) : Prop where
  ne_nil : t ≠ []
  yields : ∀ rest, Yields line (t ++ rest) l rest

theorem isLine_blank : IsLine ['\n'] none where
  ne_nil := by simp
  yields rest :=
    (yields_blanks _).bind ((yields_get _).bind ((yields_lineEnd rest).bind (yields_pure _ _)))

theorem isLine_header (h : IsBareKey k) :
    IsLine ('[' :: (k ++ "]\n".toList)) (some (.header [.ofList k])) where
  ne_nil := by simp
  yields rest := by
    have closing : ∀ c ∈ (']' :: '\n' :: rest).head?, ¬isBare c := by
      rintro c ⟨⟩
      decide
    have path : Yields headerPath (k ++ ']' :: '\n' :: rest) [.ofList k] (']' :: '\n' :: rest) :=
      (h.yields_blanks _).bind ((yields_key h closing (by simp [isBlank])).bind
        ((yields_blanks _).bind (yields_pure _ _)))
    have text : '[' :: (k ++ "]\n".toList) ++ rest = '[' :: (k ++ ']' :: '\n' :: rest) := by simp
    rw [text]
    refine (yields_blanks _).bind ((yields_get _).bind ?_)
    split
    · rename_i same
      cases same
    · -- The key does not start with a second bracket.
      rename_i tail same
      exact absurd (h.isBare_head (List.cons.inj same).2) (by decide)
    · exact (yields_one '[' _).bind (path.bind ((yields_one ']' _).bind
        ((yields_lineEnd rest).bind (yields_pure _ _))))
    · rename_i c tail _ notOpen same
      exact (notOpen (List.cons.inj same).1.symm).elim

theorem isLine_assignment (h : IsBareKey k) (hv : IsValue v x) :
    IsLine (k ++ (" = ".toList ++ (v ++ ['\n']))) (some (.assignment [.ofList k] x)) where
  ne_nil := by simp
  yields rest := by
    have other : ∀ c ∈ (" = ".toList ++ (v ++ '\n' :: rest)).head?, ¬isBare c := by
      rintro c ⟨⟩
      decide
    have starts : ∀ c ∈ (v ++ '\n' :: rest).head?, ¬isBlank c := by
      cases v with
      | nil => simp [isBlank]
      | cons c v => exact hv.starts
    have passes : ∀ c ∈ [' '], isBlank c := by simp [isBlank]
    have blank : Yields blanks (' ' :: (v ++ '\n' :: rest)) () (v ++ '\n' :: rest) :=
      (yields_takeWhile passes starts).bind (yields_pure () _)
    have text : k ++ (" = ".toList ++ (v ++ ['\n'])) ++ rest =
        k ++ (" = ".toList ++ (v ++ '\n' :: rest)) := by simp
    rw [text]
    refine (h.yields_blanks _).bind ((yields_get _).bind ?_)
    split
    · rename_i same
      exact absurd (List.append_eq_nil_iff.1 same).1 h.ne_nil
    · rename_i same
      exact absurd (h.isBare_head same) (by decide)
    · rename_i same
      exact absurd (h.isBare_head same) (by decide)
    · rename_i c tail _ _ same
      have bare := h.isBare_head same
      have ordinary : ¬(c == '#' || c == '\n' || c == '\r') := by
        simp only [Bool.or_eq_true, beq_iff_eq]
        rintro ((rfl | rfl) | rfl) <;> exact absurd bare (by decide)
      rw [if_neg ordinary]
      refine (yields_key h other (by simp [isBlank])).bind ?_
      refine (yields_blanks _).bind ((yields_one '=' (' ' :: (v ++ '\n' :: rest))).bind ?_)
      exact blank.bind ((hv.yields rest).bind ((yields_lineEnd rest).bind (yields_pure _ _)))

/-! ## Documents -/

theorem repeats_lines {lines : List (List Char × Option Line)}
    (h : ∀ l ∈ lines, IsLine l.1 l.2) :
    Repeats line (lines.flatMap Prod.fst) (lines.map Prod.snd) [] := by
  induction lines with
  | nil => exact .stop rfl
  | cons l lines ih =>
    obtain ⟨isLine, others⟩ := List.forall_mem_cons.1 h
    rw [List.flatMap_cons, List.map_cons]
    refine .step (isLine.yields _) ?_ (ih others)
    have := List.length_pos_iff.2 isLine.ne_nil
    rw [List.length_append]
    omega

end Read

/-- A document of lines is what the lines make of the empty one. -/
theorem parse?_of_lines {source : String} {lines : List (List Char × Option Read.Line)}
    (h : ∀ l ∈ lines, Read.IsLine l.1 l.2) (text : source.toList = lines.flatMap Prod.fst)
    (noMark : source.toList.head? ≠ some '\uFEFF') :
    parse? source =
      ((lines.filterMap Prod.snd).foldlM Draft.add {}).map fun d ↦ entriesToToml d.entries := by
  have read : (Read.many Read.line).run (lines.flatMap Prod.fst) =
      some (lines.map Prod.snd, []) := (Read.repeats_lines h).many
  have blank : Read.blanks.run [] = some ((), []) := Read.yields_blanks []
  rw [← text] at read
  have kept : (lines.map Prod.snd).filterMap id = lines.filterMap Prod.snd := by
    rw [List.filterMap_map]
    rfl
  unfold parse?
  split
  · rename_i same
    exact absurd (congrArg List.head? same) noMark
  · dsimp only
    rw [read, Option.bind_eq_bind, Option.bind_some, blank, Option.bind_eq_bind, Option.bind_some,
      kept]
    cases (lines.filterMap Prod.snd).foldlM Draft.add {} <;> rfl

end SqlFootprint.Toml
