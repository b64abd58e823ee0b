import SqlFootprint.Proofs.Text.Case
import SqlFootprint.Proofs.Validation.Counting
import SqlFootprint.Proofs.Validation.Resolution

/-!
# The verdict and the annotations agree

A column that is adopted by a table may come under the key of another one, and the two are merged
after both have been counted. If one of them were invalid, the annotated tree would have fewer
invalid columns than the summary counts. That cannot happen where no alias hides the name of another
table: the table that adopts a column defines it, so a column that names this table is valid there.
-/

namespace SqlFootprint

/-! ## Merging -/

namespace ColumnUse

def isInvalid (c : ColumnUse) : Bool :=
  c.valid == some false

theorem isInvalid_merge {c d : ColumnUse} (h : (c.merge d).isInvalid) :
    c.isInvalid ∨ d.isInvalid := by
  unfold merge at h
  split at h
  · exact .inr h
  · exact .inl h

/-- Columns of one key are as good as one where neither is invalid. -/
def Mergeable (c d : ColumnUse) : Prop :=
  c.foldedKey = d.foldedKey → ¬c.isInvalid ∧ ¬d.isInvalid

theorem Mergeable.merge {c d e : ColumnUse} (hc : Mergeable c e) (hd : Mergeable c d)
    (same : c.foldedKey = d.foldedKey) : Mergeable (c.merge d) e := by
  intro key
  obtain ⟨hcv, hdv⟩ := hd same
  refine ⟨fun invalid ↦ ?_, (hc key).2⟩
  obtain h | h := isInvalid_merge invalid
  · exact hcv h
  · exact hdv h

theorem mem_record {c d : ColumnUse} {cs : List ColumnUse} (h : d ∈ c.record cs) :
    d = c ∨ d ∈ cs ∨ ∃ e ∈ cs, e.foldedKey = c.foldedKey ∧ d = e.merge c := by
  induction cs with
  | nil => exact .inl (List.mem_singleton.1 h)
  | cons e es ih =>
    unfold record at h
    split at h
    · rcases List.mem_cons.1 h with rfl | h
      · exact .inr (.inr ⟨e, List.mem_cons_self, hasKey_iff.1 ‹_›, rfl⟩)
      · exact .inr (.inl (List.mem_cons_of_mem _ h))
    · rcases List.mem_cons.1 h with rfl | h
      · exact .inr (.inl List.mem_cons_self)
      · obtain rfl | h | ⟨e', he', merged⟩ := ih h
        · exact .inl rfl
        · exact .inr (.inl (List.mem_cons_of_mem _ h))
        · exact .inr (.inr ⟨e', List.mem_cons_of_mem _ he', merged⟩)

/-- Recording one of some mergeable columns leaves them mergeable. -/
theorem pairwise_record {c : ColumnUse} {cs new : List ColumnUse}
    (h : (cs ++ c :: new).Pairwise Mergeable) : (c.record cs ++ new).Pairwise Mergeable := by
  induction cs with
  | nil => exact h
  | cons d ds ih =>
    obtain ⟨head, rest⟩ := List.pairwise_cons.1 h
    have withC : Mergeable d c := head c (List.mem_append_right _ List.mem_cons_self)
    have fewer : (ds ++ new).Sublist (ds ++ c :: new) :=
      (List.sublist_cons_self c new).append_left ds
    unfold record
    split
    · refine List.pairwise_cons.2 ⟨fun e he ↦ ?_, rest.sublist fewer⟩
      exact (head e (fewer.subset he)).merge withC (hasKey_iff.1 ‹_›)
    · refine List.pairwise_cons.2 ⟨fun e he ↦ ?_, ih rest⟩
      rcases List.mem_append.1 he with he | he
      · obtain rfl | he | ⟨e', -, same, rfl⟩ := mem_record he
        · exact withC
        · exact head e (List.mem_append_left _ he)
        · exact fun key ↦ absurd (hasKey_iff.2 (key.trans same)) ‹_›
      · exact head e (fewer.subset (List.mem_append_right _ he))

theorem countP_record {c : ColumnUse} {cs : List ColumnUse} (h : ∀ d ∈ cs, Mergeable d c) :
    (c.record cs).countP isInvalid = cs.countP isInvalid + [c].countP isInvalid := by
  induction cs with
  | nil => exact (Nat.zero_add _).symm
  | cons d ds ih =>
    rw [List.forall_mem_cons] at h
    unfold record
    split
    · have same : d.foldedKey = c.foldedKey := hasKey_iff.1 ‹_›
      obtain ⟨hd, hc⟩ := h.1 same
      have merged : ¬(d.merge c).isInvalid := fun invalid ↦
        (isInvalid_merge invalid).elim hd hc
      rw [List.countP_cons_of_neg merged, List.countP_cons_of_neg hd, List.countP_cons_of_neg hc]
      rfl
    · rw [List.countP_cons, ih h.2, Nat.add_right_comm, ← List.countP_cons]

/-- Merging mergeable columns loses no invalid one. -/
theorem countP_recordAll {cs new : List ColumnUse} (h : (cs ++ new).Pairwise Mergeable) :
    (recordAll cs new).countP isInvalid = cs.countP isInvalid + new.countP isInvalid := by
  induction new generalizing cs with
  | nil => rfl
  | cons c new ih =>
    have before : ∀ d ∈ cs, Mergeable d c := fun d hd ↦
      (List.pairwise_append.1 h).2.2 d hd c List.mem_cons_self
    have later : (recordAll (c.record cs) new).countP isInvalid = _ := ih (pairwise_record h)
    rw [countP_record before, Nat.add_assoc, ← List.countP_append] at later
    exact later

end ColumnUse

/-! ## Tables that adopt -/

namespace TableUse

/-- No table has an alias that is the name of another one. -/
def Unhidden (tables : List TableUse) : Prop :=
  ∀ t ∈ tables, ∀ u ∈ tables, ∀ a ∈ t.aliasName,
    Text.lower a = Text.lower u.name → Text.lower t.name = Text.lower u.name

instance (tables : List TableUse) : Decidable (Unhidden tables) := by
  unfold Unhidden
  infer_instance

/-- Where nothing is hidden, the name of a table means this table. -/
theorem Unhidden.namesItself {tables : List TableUse} (h : Unhidden tables) {t : TableUse}
    (ht : t ∈ tables) {name : String} (same : Text.lower t.name = Text.lower name) :
    NamesItself tables name := by
  intro u hu
  have listed : u ∈ tables := List.mem_reverse.1 (List.mem_of_find?_eq_some hu)
  have fits : u.answersTo name := List.find?_some hu
  rw [answersTo, Bool.or_eq_true, Option.any_eq_true, beq_iff_eq] at fits
  obtain byName | ⟨a, ha, byAlias⟩ := fits
  · exact byName
  · rw [← same]
    exact h u listed t ht a ha ((beq_iff_eq.1 byAlias).trans same.symm)

theorem exists_of_mem_referencedNames {tables : List TableUse} {name : String}
    (h : name ∈ referencedNames tables) : ∃ t ∈ tables, t.name = name := by
  induction tables using List.reverseRecOn with
  | nil => exact absurd h List.not_mem_nil
  | append_singleton tables t ih =>
    have earlier (h : name ∈ referencedNames tables) : ∃ u ∈ tables ++ [t], u.name = name := by
      obtain ⟨u, hu, same⟩ := ih h
      exact ⟨u, List.mem_append_left _ hu, same⟩
    rw [referencedNames, List.foldl_append, List.foldl_cons, List.foldl_nil] at h
    split at h
    · exact earlier h
    · rcases List.mem_append.1 h with h | h
      · exact earlier h
      · exact ⟨t, List.mem_append_right _ List.mem_cons_self, (List.mem_singleton.1 h).symm⟩

end TableUse

theorem Verdict.exists_eq_adopted {v : Verdict} (h : v.isAdoption) :
    ∃ table type, v = adopted table type := by
  cases v with
  | adopted table type => exact ⟨table, type, rfl⟩
  | unjudged | valid | unknownColumn | ambiguousColumn => cases h

namespace Schema

variable {s : Schema} {policy : AmbiguityPolicy} {tables : List TableUse}

theorem judgeQualified_ne_adopted {table column owner type : String} :
    s.judgeQualified table column ≠ .adopted owner type := by
  unfold judgeQualified
  split
  · cases s.columnType? table column with
    | none => exact nofun
    | some type => exact nofun
  · exact nofun

/-- A table adopts a column that had none and that it defines. -/
theorem of_judge_eq_adopted {c : ColumnUse} {table type : String}
    (h : s.judge tables c = .adopted table type) :
    c.table = none ∧ (∃ t ∈ tables, t.name = table) ∧ s.columnType? table c.name = some type := by
  unfold judge at h
  cases ht : c.table with
  | some qualifier =>
    rw [ht] at h
    exact absurd h judgeQualified_ne_adopted
  | none =>
    rw [ht] at h
    have owner : (table, type) ∈ s.owners (referencedNames tables) c.name := by
      unfold judgeBare at h
      cases ho : s.owners (referencedNames tables) c.name with
      | nil => simp only [ho] at h; cases h
      | cons o os =>
        cases os with
        | nil => simp only [ho] at h; cases h; exact List.mem_cons_self
        | cons p ps => simp only [ho] at h; cases h
    obtain ⟨name, listed, found⟩ := List.mem_filterMap.1 owner
    obtain ⟨type', defined, same⟩ := Option.map_eq_some_iff.1 found
    obtain ⟨rfl, rfl⟩ := Prod.mk.inj same
    exact ⟨rfl, TableUse.exists_of_mem_referencedNames listed, defined⟩

theorem columnType?_congr {table table' column column' : String}
    (ht : Text.lower table = Text.lower table') (hc : Text.lower column = Text.lower column') :
    s.columnType? table column = s.columnType? table' column' := by
  unfold columnType? columns?
  rw [ht, hc]

/-- A column that a table defines is valid there. -/
theorem judgeQualified_of_columnType? {table column type : String}
    (h : s.columnType? table column = some type) : s.judgeQualified table column = .valid type := by
  have known : s.hasTable table := by
    unfold hasTable
    unfold columnType? at h
    cases hc : s.columns? table with
    | none => rw [hc] at h; cases h
    | some columns => rfl
  rw [judgeQualified, if_pos known, h]

/-- Of the columns that were not judged before, those that are unknown become invalid. -/
theorem isInvalid_judged {c : ColumnUse} (fresh : c.valid = none) :
    (s.judged policy tables c).isInvalid =
      (!c.isWildcard && (s.judge tables c).issue?.any Issue.isUnknownColumn) := by
  unfold judged
  split
  · rename_i hw
    rw [hw, ColumnUse.isInvalid, fresh]
    rfl
  · rename_i hw
    rw [Bool.eq_false_iff.2 hw]
    cases s.judge tables c with
    | unjudged => rfl
    | valid type => rfl
    | adopted table type => rfl
    | unknownColumn column table => rfl
    | ambiguousColumn column candidates => cases policy <;> rfl

theorem countP_judged {columns : List ColumnUse} (fresh : ∀ c ∈ columns, c.valid = none) :
    (columns.map (s.judged policy tables)).countP ColumnUse.isInvalid =
      ((columns.filter (!·.isWildcard)).map (s.judge tables)).countP
        (·.issue?.any Issue.isUnknownColumn) := by
  rw [List.countP_map, List.countP_map, List.countP_filter]
  refine List.countP_congr fun c hc ↦ ?_
  rw [Function.comp_apply, isInvalid_judged (fresh c hc), Bool.and_comm]
  rfl

/-- An invalid column does not share its key with one that was adopted. -/
theorem not_isInvalid_of_adopted (unhidden : TableUse.Unhidden tables) {c d : ColumnUse}
    (fresh : c.valid = none) (apart : c.foldedKey ≠ d.foldedKey) {table type : String}
    (adopted : s.judge tables d = .adopted table type)
    (same : c.foldedKey = ({ d with table := some table } : ColumnUse).foldedKey) :
    ¬(s.judged policy tables c).isInvalid := by
  obtain ⟨bare, ⟨t, listed, named⟩, defined⟩ := of_judge_eq_adopted adopted
  obtain ⟨sameTable, sameName⟩ := Prod.mk.inj same
  intro invalid
  rw [isInvalid_judged fresh, Bool.and_eq_true] at invalid
  cases hc : c.table with
  | none =>
    -- A table without a name cannot be told from none, so both had one key before.
    refine apart (Prod.ext ?_ sameName)
    rw [ColumnUse.foldedKey, ColumnUse.foldedKey, ColumnUse.key, ColumnUse.key, hc, bare]
  | some q =>
    rw [ColumnUse.key, hc] at sameTable
    have fits : Text.lower q = Text.lower table :=
      Text.lower_eq_of_sameName (Text.sameName_iff.2 sameTable)
    have columns : Text.lower c.name = Text.lower d.name :=
      Text.lower_eq_of_sameName (Text.sameName_iff.2 sameName)
    have itself : TableUse.NamesItself tables q :=
      unhidden.namesItself listed (by rw [named, fits])
    have known : s.columnType? (qualifiedTable tables q) c.name = some type := by
      rw [columnType?_congr ((TableUse.namesItself_iff.1 itself).trans fits) columns, defined]
    have valid : s.judge tables c = .valid type := by
      rw [judge, hc]
      exact judgeQualified_of_columnType? known
    rw [valid] at invalid
    cases invalid.2

/-- If columns of two keys come under one key by being judged, they are not invalid. -/
theorem not_isInvalid_of_foldedKey_judged (unhidden : TableUse.Unhidden tables) {c d : ColumnUse}
    (fresh : c.valid = none) (apart : c.foldedKey ≠ d.foldedKey)
    (same : (s.judged policy tables c).foldedKey = (s.judged policy tables d).foldedKey) :
    ¬(s.judged policy tables c).isInvalid := by
  intro invalid
  have stays : (s.judged policy tables c).foldedKey = c.foldedKey := by
    refine s.foldedKey_judged policy fun _ adoption ↦ ?_
    obtain ⟨table, type, hv⟩ := Verdict.exists_eq_adopted adoption
    rw [isInvalid_judged fresh, Bool.and_eq_true, hv] at invalid
    cases invalid.2
  rw [stays] at same
  by_cases moves : ¬d.isWildcard ∧ (s.judge tables d).isAdoption
  · obtain ⟨hw, adoption⟩ := moves
    obtain ⟨table, type, hv⟩ := Verdict.exists_eq_adopted adoption
    rw [judged, if_neg hw, hv] at same
    exact not_isInvalid_of_adopted unhidden fresh apart hv same invalid
  · rw [s.foldedKey_judged policy fun hw adoption ↦ moves ⟨hw, adoption⟩] at same
    exact apart same

/-- Judging loses no invalid column, also where columns are merged afterwards. -/
theorem countP_judgeColumns (unhidden : TableUse.Unhidden tables) {columns : List ColumnUse}
    (fresh : ∀ c ∈ columns, c.valid = none) (single : (columns.map ColumnUse.foldedKey).Nodup) :
    (s.judgeColumns policy tables columns).1.countP ColumnUse.isInvalid =
      ((columns.filter (!·.isWildcard)).map (s.judge tables)).countP
        (·.issue?.any Issue.isUnknownColumn) := by
  rw [judgeColumns_columns]
  split
  · have mergeable : (columns.map (s.judged policy tables)).Pairwise ColumnUse.Mergeable := by
      rw [List.pairwise_map]
      refine (List.pairwise_map.1 single).imp_of_mem fun hc hd apart same ↦ ⟨?_, ?_⟩
      · exact not_isInvalid_of_foldedKey_judged unhidden (fresh _ hc) apart same
      · exact not_isInvalid_of_foldedKey_judged unhidden (fresh _ hd) apart.symm same.symm
    rw [ColumnUse.countP_recordAll mergeable, List.countP_nil, Nat.zero_add, countP_judged fresh]
  · exact countP_judged fresh

end Schema

namespace Footprint

/-- Where no alias hides the name of another table, the annotated tree of a statement has as many
invalid columns as were counted. So it is clean if it has none. -/
theorem countP_isInvalid_validate {limit : Nat} {statement : Sql.Statement} {text : String}
    (unhidden : ∀ f ∈ (ofStatement limit statement text).parts, TableUse.Unhidden f.tables)
    (s : Schema) (policy : AmbiguityPolicy) :
    let f := (s.validate policy (ofStatement limit statement text)).1
    let summary := (s.validate policy (ofStatement limit statement text)).2
    f.allColumns.countP (·.valid == some false) = summary.invalid ∧
    (summary.isClean ↔ ∀ c ∈ f.allColumns, c.valid ≠ some false) := by
  intro f summary
  have columns : f.allColumns = (ofStatement limit statement text).parts.flatMap fun g ↦
      (s.annotate policy g).1.columns := by
    have annotated : f.parts =
        (ofStatement limit statement text).parts.map fun g ↦ (s.annotate policy g).1 :=
      s.parts_annotate policy (ofStatement limit statement text)
    rw [allColumns, annotated, List.flatMap_map]
  have own : ∀ g ∈ (ofStatement limit statement text).parts,
      (s.ownVerdicts g).countP (·.issue?.any Issue.isUnknownColumn) =
        (s.annotate policy g).1.columns.countP ColumnUse.isInvalid := by
    intro g hg
    rw [s.annotate_footprint]
    exact (Schema.countP_judgeColumns (unhidden g hg)
      (isUnjudged_ofStatement limit statement text g hg)
      (isSound_ofStatement limit statement text g hg).columns).symm
  have counted : f.allColumns.countP ColumnUse.isInvalid = summary.invalid := by
    rw [columns, ← s.countP_annotate_verdicts policy own]
    exact (ValidationSummary.invalid_ofVerdicts _).symm
  refine ⟨counted, ?_⟩
  rw [ValidationSummary.isClean, beq_iff_eq, ← counted, List.countP_eq_zero]
  refine forall₂_congr fun c _ ↦ ?_
  rw [ColumnUse.isInvalid, beq_iff_eq]

/-- In `SELECT user_id, nope FROM orders o WHERE o.user_id > 3` the first column is adopted and
merged with the one in the condition, and the second is the only invalid one. -/
theorem countP_isInvalid_validate_sample :
    let column (path : List String) (name : String) : Sql.Expr :=
      .column (path.map (⟨·, none⟩)) ⟨name, none⟩
    let query : Sql.Query := .plain [.expr (column [] "user_id"), .expr (column [] "nope")]
      [.named [⟨"orders", none⟩] "o"]
      (some (.binary (column ["o"] "user_id") (.compare .gt) (.constant "3")))
    let schema := Schema.empty.insert ⟨"orders", none, [⟨"user_id", "INT", true, false, false⟩]⟩
    let f := ofStatement 9 (.query query) ""
    let g := (schema.validate .unknown f).1
    (∀ h ∈ f.parts, TableUse.Unhidden h.tables) ∧
      f.columns.length = 3 ∧ g.columns.length = 2 ∧
      (schema.validate .unknown f).2.invalid = 1 ∧
      g.allColumns.countP (·.valid == some false) = 1 := by
  intro column query schema f g
  have unhidden : ∀ h ∈ f.parts, TableUse.Unhidden h.tables := by decide +kernel
  have invalid : (schema.validate .unknown f).2.invalid = 1 := by decide +kernel
  have counted := (countP_isInvalid_validate unhidden schema .unknown).1
  rw [invalid] at counted
  exact ⟨unhidden, by decide +kernel, by decide +kernel, invalid, counted⟩

end Footprint

end SqlFootprint
