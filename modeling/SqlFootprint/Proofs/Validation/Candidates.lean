import SqlFootprint.Proofs.Schema.Lookup
import SqlFootprint.Proofs.Validation.Agreement

/-!
# The tables that may adopt a column

A column without a table is looked up under the names of the tables around it, and these names are
told apart up to the case of ASCII letters. The schema keeps its tables up to the case of all
letters, so that one of them may be found under several names. It then counts as several: a column
is ambiguous if more than one table of the schema defines it, but also if only one does, and that
one is listed under names that differ in more than the case of ASCII letters.
-/

namespace SqlFootprint

/-- Where no two members stand in the relation that sets members apart, there is one at most. -/
theorem eq_singleton_of_pairwise {α : Type} {R : α → α → Prop} {l : List α} {a : α}
    (h : l.Pairwise R) (ha : a ∈ l) (none : ∀ b ∈ l, ∀ c ∈ l, ¬R b c) : l = [a] := by
  cases l with
  | nil => cases ha
  | cons b rest =>
    cases rest with
    | nil => rw [List.mem_singleton.1 ha]
    | cons c rest =>
      have apart : R b c := List.rel_of_pairwise_cons h List.mem_cons_self
      exact absurd apart (none b List.mem_cons_self c (List.mem_cons_of_mem _ List.mem_cons_self))

/-! ## Names that are listed -/

section ReferencedNames

variable {tables : List TableUse} {name : String}

theorem referencedNames_concat (tables : List TableUse) (t : TableUse) :
    referencedNames (tables ++ [t]) =
      if (referencedNames tables).any (Text.sameName · t.name) then referencedNames tables
      else referencedNames tables ++ [t.name] :=
  List.foldl_concat ..

/-- Each table is listed in some spelling. -/
theorem exists_sameName_of_mem {t : TableUse} (h : t ∈ tables) :
    ∃ name ∈ referencedNames tables, Text.sameName name t.name := by
  induction tables using List.reverseRecOn with
  | nil => cases h
  | append_singleton tables u ih =>
    rw [referencedNames_concat]
    split
    · rcases List.mem_append.1 h with h | h
      · exact ih h
      · rw [List.mem_singleton.1 h]
        exact List.any_eq_true.1 ‹_›
    · rcases List.mem_append.1 h with h | h
      · obtain ⟨name, listed, same⟩ := ih h
        exact ⟨name, List.mem_append_left _ listed, same⟩
      · rw [List.mem_singleton.1 h]
        exact ⟨u.name, List.mem_append_right _ List.mem_cons_self, Text.sameName_refl _⟩

/-- No two names are one up to the case of ASCII letters. -/
theorem pairwise_referencedNames (tables : List TableUse) :
    (referencedNames tables).Pairwise fun a b ↦ ¬Text.sameName a b := by
  induction tables using List.reverseRecOn with
  | nil => exact .nil
  | append_singleton tables t ih =>
    rw [referencedNames_concat]
    split
    · exact ih
    · refine List.pairwise_append.2
        ⟨ih, List.pairwise_singleton _ _, fun name listed u hu same ↦ ?_⟩
      rw [List.mem_singleton.1 hu] at same
      exact ‹¬_› (List.any_eq_true.2 ⟨name, listed, same⟩)

/-- Of the tables that a name means, the first one gives its spelling. -/
theorem find?_referencedNames (tables : List TableUse) (k : String) :
    (referencedNames tables).find? (Text.lower · == k) =
      (tables.find? (Text.lower ·.name == k)).map TableUse.name := by
  induction tables using List.reverseRecOn with
  | nil => rfl
  | append_singleton tables t ih =>
    rw [referencedNames_concat, List.find?_append, Option.map_or, ← ih]
    split
    · obtain ⟨name, listed, same⟩ := List.any_eq_true.1 ‹_›
      have lowered : Text.lower name = Text.lower t.name := Text.lower_eq_of_sameName same
      cases found : (referencedNames tables).find? (Text.lower · == k) with
      | some first => rfl
      | none =>
        -- A spelling of the name is listed, so it is no name of the table that is looked for.
        have other := List.find?_eq_none.1 found name listed
        rw [lowered] at other
        rw [Option.none_or, List.find?_singleton, if_neg other]
        rfl
    · rw [List.find?_append, List.find?_singleton, List.find?_singleton, apply_ite (Option.map _)]
      rfl

end ReferencedNames

namespace TableUse

/-- The tables of a name are spelled alike, up to the case of ASCII letters. -/
def SpelledAlike (tables : List TableUse) (k : String) : Prop :=
  ∀ t ∈ tables, ∀ u ∈ tables, Text.lower t.name = k → Text.lower u.name = k →
    Text.sameName t.name u.name

instance (tables : List TableUse) (k : String) : Decidable (SpelledAlike tables k) := by
  unfold SpelledAlike
  infer_instance

end TableUse

namespace Schema

/-- The tables of a schema, by their keys, that are among some tables and define a column. -/
def definers (s : Schema) (tables : List TableUse) (column : String) : List String :=
  s.tables.keys.filter fun k ↦
    tables.any (Text.lower ·.name == k) &&
      (s.tables.get? k).any fun types ↦ (types.get? (Text.lower column)).isSome

variable {s : Schema} {tables : List TableUse} {column k : String}

theorem nodup_definers (ts : List SchemaTable) (tables : List TableUse) (column : String) :
    ((ofTables ts).definers tables column).Nodup :=
  (inOrder_tables ts).nodup_keys.filter _

theorem isSome_columnType?_iff {table : String} :
    (s.columnType? table column).isSome ↔
      (s.tables.get? (Text.lower table)).any fun types ↦
        (types.get? (Text.lower column)).isSome := by
  unfold columnType? columns?
  cases s.tables.get? (Text.lower table) with
  | none => simp
  | some types => simp

/-- A table that defines a column is found under each name in the list that means it. -/
theorem mem_definers_iff :
    k ∈ s.definers tables column ↔
      ∃ t ∈ tables, Text.lower t.name = k ∧ (s.columnType? t.name column).isSome := by
  rw [definers, List.mem_filter, Bool.and_eq_true, List.any_eq_true, NameMap.mem_keys_iff]
  constructor
  · rintro ⟨-, ⟨t, listed, means⟩, defined⟩
    obtain rfl := beq_iff_eq.1 means
    exact ⟨t, listed, rfl, isSome_columnType?_iff.2 defined⟩
  · rintro ⟨t, listed, rfl, defined⟩
    rw [isSome_columnType?_iff] at defined
    exact ⟨Option.isSome_of_any defined, ⟨t, listed, beq_self_eq_true _⟩, defined⟩

/-- What is in the list under any spelling is asked under one of them. -/
theorem exists_owner {t : TableUse} (h : t ∈ tables)
    (defined : (s.columnType? t.name column).isSome) :
    ∃ o ∈ s.owners (referencedNames tables) column, Text.sameName o.1 t.name := by
  obtain ⟨name, listed, same⟩ := exists_sameName_of_mem h
  rw [columnType?_congr (Text.lower_eq_of_sameName same).symm rfl] at defined
  obtain ⟨type, defined⟩ := Option.isSome_iff_exists.1 defined
  exact ⟨(name, type), List.mem_filterMap.2 ⟨name, listed, by rw [defined]; rfl⟩, same⟩

theorem mem_owners_iff {names : List String} {o : String × String} :
    o ∈ s.owners names column ↔ o.1 ∈ names ∧ s.columnType? o.1 column = some o.2 := by
  obtain ⟨name, type⟩ := o
  rw [owners, List.mem_filterMap]
  simp only [Option.map_eq_some_iff, Prod.mk.injEq]
  grind

/-- Where two names are asked and both define a column, the column is ambiguous. -/
theorem judgeBare_of_two {names : List String} {o o' : String × String}
    (h : o ∈ s.owners names column) (h' : o' ∈ s.owners names column) (apart : o ≠ o') :
    ∃ candidates, 2 ≤ candidates.length ∧
      s.judgeBare names column = .ambiguousColumn column candidates := by
  unfold judgeBare
  match s.owners names column, h, h' with
  | [p], h, h' => exact absurd ((List.mem_singleton.1 h).trans (List.mem_singleton.1 h').symm) apart
  | p :: q :: rest, _, _ => exact ⟨(p :: q :: rest).map Prod.fst, by simp, rfl⟩

theorem pairwise_owners (s : Schema) (tables : List TableUse) (column : String) :
    (s.owners (referencedNames tables) column).Pairwise fun o o' ↦ ¬Text.sameName o.1 o'.1 := by
  refine (pairwise_referencedNames tables).filterMap _ fun a b apart o ho o' ho' ↦ ?_
  obtain ⟨type, -, rfl⟩ := Option.map_eq_some_iff.1 ho
  obtain ⟨type', -, rfl⟩ := Option.map_eq_some_iff.1 ho'
  exact apart

/-- What is asked under any name comes from the list, and is a table of the schema there. -/
theorem exists_mem_definers_of_mem_owners {o : String × String}
    (h : o ∈ s.owners (referencedNames tables) column) :
    ∃ t ∈ tables, t.name = o.1 ∧ Text.lower t.name ∈ s.definers tables column := by
  obtain ⟨asked, defined⟩ := mem_owners_iff.1 h
  obtain ⟨t, listed, named⟩ := TableUse.exists_of_mem_referencedNames asked
  rw [← named] at defined
  exact ⟨t, listed, named, mem_definers_iff.2 ⟨t, listed, rfl, Option.isSome_of_eq_some defined⟩⟩

/-- Where no table of the schema is listed that defines a column, the column is unknown. -/
theorem judgeBare_of_definers_eq_nil (h : s.definers tables column = []) :
    s.judgeBare (referencedNames tables) column = .unknownColumn column none := by
  have none : s.owners (referencedNames tables) column = [] := by
    refine List.eq_nil_iff_forall_not_mem.2 fun o ho ↦ ?_
    obtain ⟨t, -, -, key⟩ := exists_mem_definers_of_mem_owners ho
    rw [h] at key
    cases key
  rw [judgeBare, none]

/-- The only table that defines a column adopts it under the name by which it is listed first, if it
is spelled alike wherever it is listed. -/
theorem judgeBare_of_definers_eq_singleton (only : s.definers tables column = [k])
    (alike : TableUse.SpelledAlike tables k) :
    ∃ t type, tables.find? (Text.lower ·.name == k) = some t ∧
      s.columnType? t.name column = some type ∧
      s.judgeBare (referencedNames tables) column = .adopted t.name type := by
  obtain ⟨u, listed, means, defined⟩ :=
    mem_definers_iff.1 (by rw [only]; exact List.mem_singleton_self k)
  obtain ⟨t, first⟩ : ∃ t, tables.find? (Text.lower ·.name == k) = some t :=
    Option.isSome_iff_exists.1 (List.find?_isSome.2 ⟨u, listed, beq_iff_eq.2 means⟩)
  have fits := List.find?_some first
  have lowered : Text.lower t.name = Text.lower u.name := (beq_iff_eq.1 fits).trans means.symm
  rw [← columnType?_congr lowered rfl] at defined
  obtain ⟨type, defined⟩ := Option.isSome_iff_exists.1 defined
  refine ⟨t, type, first, defined, ?_⟩
  have asked : t.name ∈ referencedNames tables := by
    have found := find?_referencedNames tables k
    rw [first] at found
    exact List.mem_of_find?_eq_some found
  have owner : (t.name, type) ∈ s.owners (referencedNames tables) column :=
    mem_owners_iff.2 ⟨asked, defined⟩
  have alone : s.owners (referencedNames tables) column = [(t.name, type)] := by
    refine eq_singleton_of_pairwise (pairwise_owners s tables column) owner fun o ho o' ho' ↦ ?_
    -- Two names that are asked are spellings of the one key.
    obtain ⟨v, hv, named, key⟩ := exists_mem_definers_of_mem_owners ho
    obtain ⟨v', hv', named', key'⟩ := exists_mem_definers_of_mem_owners ho'
    rw [only, List.mem_singleton] at key key'
    rw [not_not, ← named, ← named']
    exact alike v hv v' hv' key key'
  rw [judgeBare, alone]

/-- A column is ambiguous if two tables define it that are listed under names that differ in more
than the case of ASCII letters, be they the same table of the schema or not. -/
theorem judgeBare_of_not_sameName {t u : TableUse} (ht : t ∈ tables) (hu : u ∈ tables)
    (defined : (s.columnType? t.name column).isSome)
    (defined' : (s.columnType? u.name column).isSome) (apart : ¬Text.sameName t.name u.name) :
    ∃ candidates, 2 ≤ candidates.length ∧
      s.judgeBare (referencedNames tables) column = .ambiguousColumn column candidates := by
  obtain ⟨o, ho, same⟩ := exists_owner ht defined
  obtain ⟨o', ho', same'⟩ := exists_owner hu defined'
  refine judgeBare_of_two ho ho' fun equal ↦ apart ?_
  rw [← equal] at same'
  exact Text.sameName_trans (Text.sameName_symm same) same'

/-- Two tables that define a column make it ambiguous. -/
theorem judgeBare_of_two_le_definers (distinct : (s.definers tables column).Nodup)
    (several : 2 ≤ (s.definers tables column).length) :
    ∃ candidates, 2 ≤ candidates.length ∧
      s.judgeBare (referencedNames tables) column = .ambiguousColumn column candidates := by
  have one : 1 < (s.definers tables column).length := several
  have zero : 0 < (s.definers tables column).length := Nat.zero_lt_of_lt one
  have apart : (s.definers tables column)[0] ≠ (s.definers tables column)[1] :=
    fun same ↦ Nat.zero_ne_one (distinct.getElem_inj_iff.1 same)
  obtain ⟨t, ht, means, defined⟩ := mem_definers_iff.1 (List.getElem_mem zero)
  obtain ⟨u, hu, means', defined'⟩ := mem_definers_iff.1 (List.getElem_mem one)
  refine judgeBare_of_not_sameName ht hu defined defined' fun same ↦ apart ?_
  rw [← means, ← means']
  exact Text.lower_eq_of_sameName same

/-- So does one table that is listed under different names. -/
theorem judgeBare_of_not_spelledAlike (hk : k ∈ s.definers tables column)
    (other : ¬TableUse.SpelledAlike tables k) :
    ∃ candidates, 2 ≤ candidates.length ∧
      s.judgeBare (referencedNames tables) column = .ambiguousColumn column candidates := by
  obtain ⟨v, -, rfl, defined⟩ := mem_definers_iff.1 hk
  rw [TableUse.SpelledAlike] at other
  push Not at other
  obtain ⟨t, ht, u, hu, means, means', apart⟩ := other
  refine judgeBare_of_not_sameName ht hu ?_ ?_ apart
  · rwa [columnType?_congr means rfl]
  · rwa [columnType?_congr means' rfl]

end Schema

/-- A column without a table is invalid if no table of the schema defines it that is listed, and it
is adopted by the only one that does, if that one is spelled alike wherever it is listed. It is
ambiguous if several do, but also if the only one is listed under names that differ in more than the
case of ASCII letters. -/
theorem Footprint.judged_by_definers (ts : List SchemaTable) (policy : AmbiguityPolicy)
    {f : Footprint} {i : Nat} {c : ColumnUse} (hc : f.columns[i]? = some c) (bare : c.table = none)
    (hw : ¬c.isWildcard) :
    let s := Schema.ofTables ts
    let definers := s.definers f.tables c.name
    let verdict := s.judge f.tables c
    (s.annotate policy f).1.columns = (s.judgeColumns policy f.tables f.columns).1 ∧
    (s.judgeAll policy f.tables f.columns).1[i]? = some (verdict.mark policy c) ∧
    definers.Nodup ∧
    (definers = [] →
      verdict = .unknownColumn c.name none ∧ (verdict.mark policy c).valid = some false) ∧
    (∀ k, definers = [k] → TableUse.SpelledAlike f.tables k →
      ∃ t type, f.tables.find? (Text.lower ·.name == k) = some t ∧
        s.columnType? t.name c.name = some type ∧ verdict = .adopted t.name type ∧
        verdict.mark policy c = { c with table := t.name, valid := true, type := type }) ∧
    (2 ≤ definers.length ∨ (∃ k ∈ definers, ¬TableUse.SpelledAlike f.tables k) →
      ∃ candidates, 2 ≤ candidates.length ∧ verdict = .ambiguousColumn c.name candidates) := by
  intro s definers verdict
  have distinct : definers.Nodup := Schema.nodup_definers ts f.tables c.name
  have looked : verdict = s.judgeBare (referencedNames f.tables) c.name := by
    unfold verdict Schema.judge
    rw [bare]
  refine ⟨?_, ?_, distinct, fun empty ↦ ?_, fun k only alike ↦ ?_, ?_⟩
  · rw [s.annotate_footprint]
    rfl
  · rw [s.judgeAll_columns, List.getElem?_map, hc, Option.map_some, Schema.judged, if_neg hw]
  · have unknown := looked.trans (Schema.judgeBare_of_definers_eq_nil empty)
    exact ⟨unknown, by rw [unknown]; rfl⟩
  · obtain ⟨t, type, first, defined, adopted⟩ :=
      Schema.judgeBare_of_definers_eq_singleton only alike
    have adopted := looked.trans adopted
    exact ⟨t, type, first, defined, adopted, by rw [adopted]; rfl⟩
  · rw [looked]
    rintro (several | ⟨k, hk, other⟩)
    · exact Schema.judgeBare_of_two_le_definers distinct several
    · exact Schema.judgeBare_of_not_spelledAlike hk other

/-- In `SELECT a FROM T, t x, u` the table `t` adopts the column under the name that is first. -/
theorem Footprint.judged_by_definers_sample :
    let query : Sql.Query := .plain [.expr (.column [] ⟨"a", none⟩)]
      [.named [⟨"T", none⟩] none, .named [⟨"t", none⟩] "x", .named [⟨"u", none⟩] none]
    let f := ofStatement 4 (.query query) ""
    let s := Schema.ofTables [⟨"t", none, [{ name := "A", type := "INT" }]⟩, ⟨"u", none, []⟩]
    ∃ c, f.columns[0]? = some c ∧ s.judge f.tables c = .adopted "T" "INT" := by
  intro query f s
  have listed : f.columns[0]? = some ⟨"a", none, none, .ofRole .selected, none, none⟩ := by
    decide +kernel
  have only : s.definers f.tables "a" = ["t"] := by decide +kernel
  obtain ⟨-, -, -, -, single, -⟩ := judged_by_definers
    [⟨"t", none, [{ name := "A", type := "INT" }]⟩, ⟨"u", none, []⟩] .unknown listed rfl (by decide)
  obtain ⟨t, type, first, defined, adopted, -⟩ := single "t" only (by decide +kernel)
  have named : f.tables.find? (Text.lower ·.name == "t") = some ⟨"T", none, none⟩ := by
    decide +kernel
  obtain rfl := Option.some.inj (first.symm.trans named)
  have typed : s.columnType? "T" "a" = some "INT" := by decide +kernel
  obtain rfl := Option.some.inj (defined.symm.trans typed)
  exact ⟨_, listed, adopted⟩

/-- In `SELECT a FROM É, é` one table of the schema is listed twice, and the column is ambiguous. -/
theorem Footprint.not_judged_by_definers :
    ¬∀ (ts : List SchemaTable) (f : Footprint) (c : ColumnUse) (k : String), c ∈ f.columns →
      c.table = none → ¬c.isWildcard → (Schema.ofTables ts).definers f.tables c.name = [k] →
      ∀ candidates, (Schema.ofTables ts).judge f.tables c ≠
        .ambiguousColumn c.name candidates := by
  intro distinct
  let query : Sql.Query := .plain [.expr (.column [] ⟨"a", none⟩)]
    [.named [⟨"É", none⟩] none, .named [⟨"é", none⟩] none]
  exact distinct [⟨"é", none, [{ name := "a", type := "INT" }]⟩]
    (ofStatement 4 (.query query) "") ⟨"a", none, none, .ofRole .selected, none, none⟩ "é"
    (by decide +kernel) rfl (by decide) (by decide +kernel) ["É", "é"] (by decide +kernel)

end SqlFootprint
