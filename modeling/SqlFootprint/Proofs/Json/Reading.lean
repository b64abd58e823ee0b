import SqlFootprint.Proofs.Json.Words

/-!
# Reading back values

A printed value is read back, unless it holds a number that is kept as it was spelled. Every item
of an array and every member of an object shortens the text by more than one character, so the
fuel of a reader outlasts its text.
-/

namespace SqlFootprint.Json

/-! ## Exact values -/

mutual

/-- No number in a value is kept as it was spelled. -/
def Exact : Json → Prop
  | .number _ => False
  | .array items => ExactItems items
  | .object members => ExactMembers members
  | .null | .bool _ | .natural _ | .string _ => True

def ExactItems : List Json → Prop
  | [] => True
  | j :: js => j.Exact ∧ ExactItems js

def ExactMembers : List (String × Json) → Prop
  | [] => True
  | m :: ms => ExactMember m ∧ ExactMembers ms

def ExactMember : String × Json → Prop
  | (_, j) => j.Exact

end

theorem exact_array {items : List Json} : (array items).Exact ↔ ∀ j ∈ items, j.Exact := by
  rw [Exact]
  induction items with
  | nil => simp [ExactItems]
  | cons j js ih => rw [ExactItems, ih, List.forall_mem_cons]

theorem exact_object {members : List (String × Json)} :
    (object members).Exact ↔ ∀ m ∈ members, m.2.Exact := by
  rw [Exact]
  induction members with
  | nil => simp [ExactMembers]
  | cons m ms ih => rw [ExactMembers, ih, List.forall_mem_cons, ExactMember]

/-- Where a value may start: neither with a blank nor with the end of a list. -/
def StartsValue (cs : List Char) : Prop :=
  ∃ c ∈ cs.head?, ¬isSpace c ∧ c ≠ ']'

theorem StartsValue.append {cs : List Char} (h : StartsValue cs) (rest : List Char) :
    StartsValue (cs ++ rest) := by
  obtain ⟨c, hc, starts⟩ := h
  cases cs with
  | nil => cases hc
  | cons d ds => exact ⟨c, hc, starts⟩

theorem StartsValue.skipSpace_eq {cs : List Char} (h : StartsValue cs) : skipSpace cs = cs := by
  obtain ⟨c, hc, notSpace, -⟩ := h
  cases cs with
  | nil => cases hc
  | cons d ds =>
    obtain rfl : d = c := Option.some.inj hc
    exact skipSpace_of_not_isSpace notSpace ds

theorem startsValue_toDigits (n : Nat) : StartsValue (Nat.toDigits 10 n) := by
  cases hd : Nat.toDigits 10 n with
  | nil => exact absurd hd Nat.toDigits_ne_nil
  | cons c ds =>
    have digit : c.isDigit := Text.isDigit_of_mem_toDigits (hd ▸ List.mem_cons_self)
    refine ⟨c, rfl, fun space ↦ ?_, fun close ↦ ?_⟩
    · simp only [isSpace, Bool.or_eq_true, beq_iff_eq] at space
      rcases space with ((rfl | rfl) | rfl) | rfl <;> exact absurd digit (by decide)
    · rw [close] at digit
      exact absurd digit (by decide)

theorem startsValue_cons {c : Char} {cs : List Char} (h : ¬isSpace c ∧ c ≠ ']') :
    StartsValue (c :: cs) :=
  ⟨c, rfl, h⟩

theorem block_toList_cons (o c : String) (level : Nat) (line : String) (lines : List String) :
    (block o c level (line :: lines)).toList =
      o.toList ++ ((lineBreak (level + 1)).toList ++
        ((("," ++ lineBreak (level + 1)).intercalate (line :: lines)).toList ++
          ((lineBreak level).toList ++ c.toList))) := by
  simp [block, List.append_assoc]

theorem startsValue_block (o c : String) (h : StartsValue o.toList) (level : Nat)
    (lines : List String) : StartsValue (block o c level lines).toList := by
  cases lines with
  | nil =>
    rw [block, List.isEmpty_nil, if_pos rfl, String.toList_append]
    exact h.append _
  | cons line lines =>
    rw [block_toList_cons]
    exact h.append _

theorem startsValue_prettyAt {j : Json} (h : j.Exact) (level : Nat) :
    StartsValue (j.prettyAt level).toList := by
  cases j with
  | number text => exact absurd h (by simp [Exact])
  | natural n =>
    rw [prettyAt, Nat.toString_eq_ofList_toDigits, String.toList_ofList]
    exact startsValue_toDigits n
  | string s =>
    rw [prettyAt, quote_toList]
    exact startsValue_cons (by decide)
  | null =>
    rw [prettyAt]
    exact ⟨'n', rfl, by decide⟩
  | bool b =>
    cases b with
    | true =>
      rw [prettyAt]
      exact ⟨'t', rfl, by decide⟩
    | false =>
      rw [prettyAt]
      exact ⟨'f', rfl, by decide⟩
  | array items =>
    rw [prettyAt]
    exact startsValue_block "[" "]" ⟨'[', rfl, by decide⟩ level _
  | object members =>
    rw [prettyAt]
    exact startsValue_block "\x7b" "\x7d" ⟨'\x7b', rfl, by decide⟩ level _

theorem endsNumber_cons {c : Char} {cs : List Char}
    (h : ¬c.isDigit ∧ c ≠ '.' ∧ c ≠ 'e' ∧ c ≠ 'E') : EndsNumber (c :: cs) := by
  rintro _ ⟨⟩
  exact h

theorem endsNumber_lineBreak (level : Nat) (cs : List Char) :
    EndsNumber ((lineBreak level).toList ++ cs) := by
  rw [lineBreak_toList]
  exact endsNumber_cons (by decide)

theorem intercalate_toList_cons_cons (sep line next : String) (lines : List String) :
    (sep.intercalate (line :: next :: lines)).toList =
      line.toList ++ (sep.toList ++ (sep.intercalate (next :: lines)).toList) := by
  simp [String.toList_intercalate]

/-- What stands between the lines of a block. -/
theorem separator_toList (level : Nat) :
    ("," ++ lineBreak level).toList = ',' :: (lineBreak level).toList := by
  rw [String.toList_append]
  rfl

theorem value?_array {n : Nat} {cs rest : List Char} (items : List Json)
    (starts : StartsValue (skipSpace cs))
    (h : items? n [] (skipSpace cs) = some (items, rest)) :
    value? (n + 1) ('[' :: cs) = some (.array items, rest) := by
  rw [value?]
  split
  · rename_i close
    obtain ⟨c, hc, -, open_⟩ := starts
    rw [close] at hc
    cases hc
    exact absurd rfl open_
  · rw [h]
    rfl

theorem value?_object {n : Nat} {cs rest : List Char} (members : List (String × Json))
    (starts : (skipSpace cs).head? = some '"')
    (h : members? n [] (skipSpace cs) = some (members, rest)) :
    value? (n + 1) ('\x7b' :: cs) = some (.object members, rest) := by
  rw [value?]
  split
  · rename_i close
    rw [close] at starts
    cases starts
  · rw [h]
    rfl

theorem value?_of_digit {n : Nat} {c : Char} (h : c.isDigit) (cs : List Char) :
    value? (n + 1) (c :: cs) = number? (c :: cs) := by
  have other : ∀ d ∈ ['"', '[', '\x7b', 'n', 't', 'f'], c ≠ d := by
    rintro d hd rfl
    simp only [List.mem_cons, List.not_mem_nil, or_false] at hd
    rcases hd with rfl | rfl | rfl | rfl | rfl | rfl <;> exact absurd h (by decide)
  rw [value?]
  all_goals
    rintro _ ⟨⟩
    exact absurd rfl (other _ (by decide))

/-- The text of a member goes on with its value behind a colon. -/
theorem prettyMember_toList (level : Nat) (name : String) (j : Json) (rest : List Char) :
    (prettyMember level (name, j)).toList ++ rest =
      (quote name).toList ++ (':' :: ' ' :: ((j.prettyAt level).toList ++ rest)) := by
  simp [prettyMember]

theorem items?_last {n : Nat} {done : List Json} {cs rest : List Char} {j : Json} (level : Nat)
    (h : value? n cs = some (j, (lineBreak level).toList ++ ']' :: rest)) :
    items? (n + 1) done cs = some ((j :: done).reverse, rest) := by
  rw [items?, h]
  simp only [skipSpace_lineBreak, skipSpace_of_not_isSpace (c := ']') (by decide)]

theorem items?_next {n : Nat} {done : List Json} {cs rest : List Char} {j : Json}
    (h : value? n cs = some (j, ',' :: rest)) :
    items? (n + 1) done cs = items? n (j :: done) (skipSpace rest) := by
  rw [items?, h]
  simp only [skipSpace_of_not_isSpace (c := ',') (by decide)]

theorem members?_last {n : Nat} {done : List (String × Json)} {cs rest : List Char} {j : Json}
    (name : String) (level : Nat) (starts : StartsValue cs)
    (h : value? n cs = some (j, (lineBreak level).toList ++ '\x7d' :: rest)) :
    members? (n + 1) done ((quote name).toList ++ (':' :: ' ' :: cs)) =
      some (((name, j) :: done).reverse, rest) := by
  have space : skipSpace (' ' :: cs) = cs := starts.skipSpace_eq
  rw [members?, string?_quote]
  simp only [skipSpace_of_not_isSpace (c := ':') (by decide), space, h, skipSpace_lineBreak,
    skipSpace_of_not_isSpace (c := '\x7d') (by decide)]

theorem members?_next {n : Nat} {done : List (String × Json)} {cs rest : List Char} {j : Json}
    (name : String) (starts : StartsValue cs) (h : value? n cs = some (j, ',' :: rest)) :
    members? (n + 1) done ((quote name).toList ++ (':' :: ' ' :: cs)) =
      members? n ((name, j) :: done) (skipSpace rest) := by
  have space : skipSpace (' ' :: cs) = cs := starts.skipSpace_eq
  rw [members?, string?_quote]
  simp only [skipSpace_of_not_isSpace (c := ':') (by decide), space, h,
    skipSpace_of_not_isSpace (c := ',') (by decide)]

/-- The lines of an array's items, the first one without its break. -/
def itemLines (level : Nat) (items : List Json) : List Char :=
  (("," ++ lineBreak level).intercalate (prettyItems level items)).toList

def memberLines (level : Nat) (members : List (String × Json)) : List Char :=
  (("," ++ lineBreak level).intercalate (prettyMembers level members)).toList

theorem itemLines_singleton (level : Nat) (j : Json) :
    itemLines level [j] = (j.prettyAt level).toList := by
  simp [itemLines, prettyItems]

theorem itemLines_cons_cons (level : Nat) (j k : Json) (js : List Json) :
    itemLines level (j :: k :: js) =
      (j.prettyAt level).toList ++
        (',' :: ((lineBreak level).toList ++ itemLines level (k :: js))) := by
  simp only [itemLines, prettyItems, intercalate_toList_cons_cons, separator_toList,
    List.cons_append]

theorem startsValue_itemLines {j : Json} (h : j.Exact) (level : Nat) (js : List Json) :
    StartsValue (itemLines level (j :: js)) := by
  cases js with
  | nil =>
    rw [itemLines_singleton]
    exact startsValue_prettyAt h level
  | cons k js =>
    rw [itemLines_cons_cons]
    exact (startsValue_prettyAt h level).append _

theorem memberLines_singleton (level : Nat) (name : String) (j : Json) :
    memberLines level [(name, j)] =
      (quote name).toList ++ (':' :: ' ' :: (j.prettyAt level).toList) := by
  simp [memberLines, prettyMembers, prettyMember]

theorem memberLines_cons_cons (level : Nat) (name : String) (j : Json) (m : String × Json)
    (ms : List (String × Json)) :
    memberLines level ((name, j) :: m :: ms) =
      (quote name).toList ++ (':' :: ' ' :: ((j.prettyAt level).toList ++
        (',' :: ((lineBreak level).toList ++ memberLines level (m :: ms))))) := by
  simp only [memberLines, prettyMembers, intercalate_toList_cons_cons, separator_toList,
    prettyMember_toList, List.cons_append]

theorem head?_memberLines (level : Nat) (m : String × Json) (ms : List (String × Json))
    (rest : List Char) : (memberLines level (m :: ms) ++ rest).head? = some '"' := by
  obtain ⟨name, j⟩ := m
  cases ms with
  | nil =>
    rw [memberLines_singleton, quote_toList]
    rfl
  | cons k ks =>
    rw [memberLines_cons_cons, quote_toList]
    rfl

theorem skipSpace_memberLines (level : Nat) (m : String × Json) (ms : List (String × Json))
    (rest : List Char) :
    skipSpace (memberLines level (m :: ms) ++ rest) = memberLines level (m :: ms) ++ rest :=
  StartsValue.skipSpace_eq ⟨'"', head?_memberLines level m ms rest, by decide⟩

theorem prettyAt_array_toList (level : Nat) (j : Json) (js : List Json) (rest : List Char) :
    ((array (j :: js)).prettyAt level).toList ++ rest =
      '[' :: ((lineBreak (level + 1)).toList ++ (itemLines (level + 1) (j :: js) ++
        ((lineBreak level).toList ++ ']' :: rest))) := by
  rw [prettyAt, prettyItems, block_toList_cons, itemLines, prettyItems]
  simp [List.append_assoc]

theorem prettyAt_object_toList (level : Nat) (m : String × Json) (ms : List (String × Json))
    (rest : List Char) :
    ((object (m :: ms)).prettyAt level).toList ++ rest =
      '\x7b' :: ((lineBreak (level + 1)).toList ++ (memberLines (level + 1) (m :: ms) ++
        ((lineBreak level).toList ++ '\x7d' :: rest))) := by
  rw [prettyAt, prettyMembers, block_toList_cons, memberLines, prettyMembers]
  simp [List.append_assoc]

/-- A printed value is read as itself, whatever comes after it that is no part of a number. -/
def ReadsBack (j : Json) : Prop :=
  ∀ (level n : Nat) (rest : List Char), EndsNumber rest →
    ((j.prettyAt level).toList ++ rest).length ≤ n →
      value? n ((j.prettyAt level).toList ++ rest) = some (j, rest)

theorem readsBack_natural (k : Nat) : (natural k).ReadsBack := by
  intro level n rest ends enough
  have digit : ∀ c ∈ Nat.toDigits 10 k, c.isDigit := fun c hc ↦
    Nat.isDigit_of_mem_toDigits (by decide) (by decide) hc
  rw [prettyAt, Nat.toString_eq_ofList_toDigits, String.toList_ofList] at enough ⊢
  have number := number?_toDigits k ends
  cases hd : Nat.toDigits 10 k with
  | nil => exact absurd hd Nat.toDigits_ne_nil
  | cons c cs =>
    rw [hd] at enough digit number
    cases n with
    | zero => cases enough
    | succ n =>
      rw [List.cons_append, value?_of_digit (digit c List.mem_cons_self)]
      exact number

theorem readsBack_string (s : String) : (string s).ReadsBack := by
  intro level n rest _ enough
  have read := string?_quote s rest
  rw [prettyAt] at enough ⊢
  rw [quote_toList, List.cons_append] at read enough ⊢
  cases n with
  | zero => cases enough
  | succ n =>
    simp only [value?, read]
    rfl

theorem readsBack_null : null.ReadsBack := by
  intro level n rest _ enough
  cases n with
  | zero => simp [prettyAt] at enough
  | succ n => simp [prettyAt, value?, after?]

theorem readsBack_bool (b : Bool) : (bool b).ReadsBack := by
  intro level n rest _ enough
  cases n with
  | zero => cases b <;> simp [prettyAt] at enough
  | succ n => cases b <;> simp [prettyAt, value?, after?]

/-- Reading the items of an array goes along the list, and the fuel outlasts the text. -/
theorem items?_itemLines {j : Json} {js : List Json} (read : ∀ k ∈ j :: js, k.ReadsBack)
    (exact : ∀ k ∈ j :: js, k.Exact) (level below : Nat) {n : Nat} (done : List Json)
    (rest : List Char)
    (enough : (itemLines level (j :: js) ++ ((lineBreak below).toList ++ ']' :: rest)).length < n) :
    items? n done (itemLines level (j :: js) ++ ((lineBreak below).toList ++ ']' :: rest)) =
      some (done.reverse ++ j :: js, rest) := by
  induction js generalizing j n done with
  | nil =>
    rw [itemLines_singleton] at enough ⊢
    cases n with
    | zero => cases enough
    | succ n =>
      have first := read j List.mem_cons_self level n ((lineBreak below).toList ++ ']' :: rest)
        (endsNumber_lineBreak below _) (Nat.le_of_lt_succ enough)
      rw [items?_last below first, List.reverse_cons]
  | cons k js ih =>
    rw [itemLines_cons_cons, List.append_assoc, List.cons_append, List.append_assoc] at enough ⊢
    cases n with
    | zero => cases enough
    | succ n =>
      have first := read j List.mem_cons_self level n _ (endsNumber_cons (by decide))
        (Nat.le_of_lt_succ enough)
      have starts := startsValue_itemLines (exact k (by simp)) level js
      have tail : (itemLines level (k :: js) ++
          ((lineBreak below).toList ++ ']' :: rest)).length < n := by
        simp only [List.length_cons, List.length_append] at enough ⊢
        omega
      rw [items?_next first, skipSpace_lineBreak, (starts.append _).skipSpace_eq,
        ih (List.forall_mem_cons.1 read).2 (List.forall_mem_cons.1 exact).2 (j :: done) tail,
        List.reverse_cons, List.append_assoc, List.singleton_append]

theorem readsBack_array {items : List Json} (read : ∀ j ∈ items, j.ReadsBack)
    (exact : ∀ j ∈ items, j.Exact) : (array items).ReadsBack := by
  intro level n rest _ enough
  cases items with
  | nil =>
    cases n with
    | zero => simp [prettyAt, block, prettyItems] at enough
    | succ n =>
      simp [prettyAt, block, prettyItems, value?, skipSpace_of_not_isSpace (c := ']') (by decide)]
  | cons j js =>
    have starts := startsValue_itemLines (exact j List.mem_cons_self) (level + 1) js
    rw [prettyAt_array_toList] at enough ⊢
    cases n with
    | zero => cases enough
    | succ n =>
      have skip := skipSpace_lineBreak (level + 1) (itemLines (level + 1) (j :: js) ++
        ((lineBreak level).toList ++ ']' :: rest))
      rw [(starts.append _).skipSpace_eq] at skip
      refine value?_array _ ?_ ?_
      · rw [skip]
        exact starts.append _
      · rw [skip]
        refine items?_itemLines read exact (level + 1) level [] rest ?_
        have := congrArg List.length (lineBreak_toList (level + 1))
        simp only [List.length_cons, List.length_append] at enough this ⊢
        omega

theorem members?_memberLines {m : String × Json} {ms : List (String × Json)}
    (read : ∀ k ∈ m :: ms, k.2.ReadsBack) (exact : ∀ k ∈ m :: ms, k.2.Exact) (level below : Nat)
    {n : Nat} (done : List (String × Json)) (rest : List Char)
    (enough :
      (memberLines level (m :: ms) ++ ((lineBreak below).toList ++ '\x7d' :: rest)).length < n) :
    members? n done (memberLines level (m :: ms) ++ ((lineBreak below).toList ++ '\x7d' :: rest)) =
      some (done.reverse ++ m :: ms, rest) := by
  induction ms generalizing m n done with
  | nil =>
    obtain ⟨name, j⟩ := m
    have starts := startsValue_prettyAt (exact (name, j) List.mem_cons_self) level
    rw [memberLines_singleton, List.append_assoc, List.cons_append, List.cons_append] at enough ⊢
    cases n with
    | zero => cases enough
    | succ n =>
      have first := read (name, j) List.mem_cons_self level n
        ((lineBreak below).toList ++ '\x7d' :: rest) (endsNumber_lineBreak below _) (by
          simp only [List.length_cons, List.length_append] at enough ⊢
          omega)
      rw [members?_last name below (starts.append _) first, List.reverse_cons]
  | cons k ms ih =>
    obtain ⟨name, j⟩ := m
    have starts := startsValue_prettyAt (exact (name, j) List.mem_cons_self) level
    rw [memberLines_cons_cons, List.append_assoc, List.cons_append, List.cons_append,
      List.append_assoc, List.cons_append, List.append_assoc] at enough ⊢
    cases n with
    | zero => cases enough
    | succ n =>
      have first := read (name, j) List.mem_cons_self level n
        (',' :: ((lineBreak level).toList ++ (memberLines level (k :: ms) ++
          ((lineBreak below).toList ++ '\x7d' :: rest)))) (endsNumber_cons (by decide)) (by
          simp only [List.length_cons, List.length_append] at enough ⊢
          omega)
      have tail : (memberLines level (k :: ms) ++
          ((lineBreak below).toList ++ '\x7d' :: rest)).length < n := by
        simp only [List.length_cons, List.length_append] at enough ⊢
        omega
      rw [members?_next name (starts.append _) first, skipSpace_lineBreak, skipSpace_memberLines,
        ih (List.forall_mem_cons.1 read).2 (List.forall_mem_cons.1 exact).2 ((name, j) :: done)
          tail,
        List.reverse_cons, List.append_assoc, List.singleton_append]

theorem readsBack_object {members : List (String × Json)}
    (read : ∀ m ∈ members, m.2.ReadsBack) (exact : ∀ m ∈ members, m.2.Exact) :
    (object members).ReadsBack := by
  intro level n rest _ enough
  cases members with
  | nil =>
    cases n with
    | zero => simp [prettyAt, block, prettyMembers] at enough
    | succ n =>
      simp [prettyAt, block, prettyMembers, value?,
        skipSpace_of_not_isSpace (c := '\x7d') (by decide)]
  | cons m ms =>
    rw [prettyAt_object_toList] at enough ⊢
    cases n with
    | zero => cases enough
    | succ n =>
      have skip := skipSpace_lineBreak (level + 1) (memberLines (level + 1) (m :: ms) ++
        ((lineBreak level).toList ++ '\x7d' :: rest))
      rw [skipSpace_memberLines] at skip
      refine value?_object _ ?_ ?_
      · rw [skip]
        exact head?_memberLines _ m ms _
      · rw [skip]
        refine members?_memberLines read exact (level + 1) level [] rest ?_
        have := congrArg List.length (lineBreak_toList (level + 1))
        simp only [List.length_cons, List.length_append] at enough this ⊢
        omega

mutual

theorem Exact.readsBack : {j : Json} → j.Exact → j.ReadsBack
  | .number _, exact => absurd exact (by simp [Exact])
  | .null, _ => readsBack_null
  | .bool b, _ => readsBack_bool b
  | .natural k, _ => readsBack_natural k
  | .string s, _ => readsBack_string s
  | .array _, exact =>
    readsBack_array (readsBack_of_items (exact_array.1 exact)) (exact_array.1 exact)
  | .object _, exact =>
    readsBack_object (readsBack_of_members (exact_object.1 exact)) (exact_object.1 exact)

theorem readsBack_of_items : {items : List Json} → (∀ j ∈ items, j.Exact) →
    ∀ j ∈ items, j.ReadsBack
  | [], _ => nofun
  | j :: _, exact =>
    have first : j.ReadsBack := Exact.readsBack (exact j List.mem_cons_self)
    have others := readsBack_of_items (List.forall_mem_cons.1 exact).2
    List.forall_mem_cons.2 ⟨first, others⟩

theorem readsBack_of_members : {members : List (String × Json)} → (∀ m ∈ members, m.2.Exact) →
    ∀ m ∈ members, m.2.ReadsBack
  | [], _ => nofun
  | m :: _, exact =>
    have first : m.2.ReadsBack := readsBack_of_member (exact m List.mem_cons_self)
    have others := readsBack_of_members (List.forall_mem_cons.1 exact).2
    List.forall_mem_cons.2 ⟨first, others⟩

theorem readsBack_of_member : {m : String × Json} → m.2.Exact → m.2.ReadsBack
  | (_, _), exact => Exact.readsBack exact

end

/-- A printed value is read back. -/
theorem parse?_pretty {j : Json} (exact : j.Exact) : parse? j.pretty = some j := by
  have read := exact.readsBack 0 ((j.prettyAt 0).toList.length + 1) [] nofun (by simp)
  rw [List.append_nil] at read
  have skip : skipSpace (j.prettyAt 0).toList = (j.prettyAt 0).toList :=
    (startsValue_prettyAt exact 0).skipSpace_eq
  simp only [parse?, pretty, skip, read]
  rfl

end SqlFootprint.Json
