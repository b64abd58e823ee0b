import SqlFootprint.Proofs.Footprint.Classes
import SqlFootprint.Proofs.Validation.LetterCase
import SqlFootprint.Proofs.Validation.Virtual

/-!
# Judging again

A column that has been judged is settled: judging it again leaves it as it is. This is plain where a
column keeps its table. A column that is adopted names its new table from then on, and is looked up
there the second time; it meets the same answer where no alias hides the name of that table.

Adopted columns may be merged with others. Then all of them have the same standing, so that the
merged column is settled as well, and a second pass finds nothing to adopt and nothing to merge.
-/

namespace SqlFootprint

namespace Verdict

/-- A verdict marks a column in the same way however often it is met. -/
theorem mark_mark (policy : AmbiguityPolicy) (c : ColumnUse) (v : Verdict) :
    v.mark policy (v.mark policy c) = v.mark policy c := by
  cases v with
  | ambiguousColumn column candidates => cases policy <;> rfl
  | unjudged | valid | adopted | unknownColumn => rfl

theorem name_mark (policy : AmbiguityPolicy) (c : ColumnUse) (v : Verdict) :
    (v.mark policy c).name = c.name := by
  cases v with
  | ambiguousColumn column candidates => cases policy <;> rfl
  | unjudged | valid | adopted | unknownColumn => rfl

theorem table_mark {policy : AmbiguityPolicy} {c : ColumnUse} {v : Verdict} (h : ¬v.isAdoption) :
    (v.mark policy c).table = c.table := by
  cases v with
  | adopted table type => exact absurd rfl h
  | ambiguousColumn column candidates => cases policy <;> rfl
  | unjudged | valid | unknownColumn => rfl

end Verdict

namespace ColumnUse

/-- A column as it is written elsewhere in a statement, with an alias and roles of that place. -/
def used (c : ColumnUse) (aliasName : Option String) (roles : Roles) : ColumnUse :=
  { c with aliasName, roles }

theorem eq_used {c d : ColumnUse} (name : d.name = c.name) (table : d.table = c.table)
    (standing : d.standing = c.standing) : d = c.used d.aliasName d.roles :=
  ext_parts name table rfl rfl standing

/-- Where the uses of a key have the same standing, what is recorded under it is one of them as it is
written elsewhere. -/
theorem exists_used_of_mem_dedup {new : List ColumnUse}
    (alike : ∀ c ∈ new, ∀ d ∈ new, c.foldedKey = d.foldedKey → c.standing = d.standing)
    {d : ColumnUse} (hd : d ∈ recordAll [] new) :
    ∃ c ∈ new, c.foldedKey = d.foldedKey ∧ d = c.used d.aliasName d.roles := by
  obtain ⟨c, rest, members, together⟩ := exists_class_of_mem_dedup hd
  have listed : c ∈ new.filter (·.foldedKey = d.foldedKey) := members ▸ List.mem_cons_self
  obtain ⟨hc, key⟩ := List.mem_filter.1 listed
  have key : c.foldedKey = d.foldedKey := of_decide_eq_true key
  have stand : Stand d.foldedKey c.standing new :=
    fun e he same ↦ alike e he c hc (same.trans key.symm)
  have standing : d.standing = c.standing :=
    Stand.recordAll (List.forall_mem_nil _) stand d hd rfl
  exact ⟨c, hc, key, eq_used (by rw [together]; rfl) (by rw [together]; rfl) standing⟩

theorem isWildcard_congr {c d : ColumnUse} (h : Text.foldAscii c.name = Text.foldAscii d.name) :
    c.isWildcard = d.isWildcard := by
  rw [Bool.eq_iff_iff, isWildcard, isWildcard, beq_iff_eq, beq_iff_eq,
    ← Text.foldAscii_eq_star_iff, h, Text.foldAscii_eq_star_iff]

end ColumnUse

/-- Columns are told apart by their keys, and no alias hides the name of another table. -/
structure Footprint.Clear (f : Footprint) : Prop where
  single : (f.columns.map ColumnUse.foldedKey).Nodup
  unhidden : TableUse.Unhidden f.tables

namespace Schema

variable {s : Schema} {policy : AmbiguityPolicy} {tables : List TableUse} {c d : ColumnUse}
  {columns : List ColumnUse} {f : Footprint}

/-! ## Settled columns -/

theorem judge_congr (name : c.name = d.name) (table : c.table = d.table) :
    s.judge tables c = s.judge tables d := by
  unfold judge
  rw [name, table]

theorem name_judged (tables : List TableUse) (c : ColumnUse) :
    (s.judged policy tables c).name = c.name := by
  unfold judged
  split
  · rfl
  · exact Verdict.name_mark policy c _

/-- Neither alias nor roles are judged. -/
theorem judged_used (aliasName : Option String) (roles : Roles) :
    s.judged policy tables (c.used aliasName roles) =
      (s.judged policy tables c).used aliasName roles := by
  have verdict : s.judge tables (c.used aliasName roles) = s.judge tables c := judge_congr rfl rfl
  unfold judged
  rw [verdict]
  split
  · rw [if_pos ‹_›]
  · rw [if_neg ‹_›]
    cases s.judge tables c with
    | ambiguousColumn column candidates => cases policy <;> rfl
    | unjudged | valid | adopted | unknownColumn => rfl

theorem judged_of_adopted (hw : ¬c.isWildcard) {owner type : String}
    (h : s.judge tables c = .adopted owner type) :
    s.judged policy tables c = { c with table := some owner }.accept (some type) := by
  rw [judged, if_neg hw, h]
  rfl

/-- Where no alias hides the name of a table, a column that has been judged is settled. -/
theorem judged_judged (unhidden : TableUse.Unhidden tables) (c : ColumnUse) :
    s.judged policy tables (s.judged policy tables c) = s.judged policy tables c := by
  by_cases hw : c.isWildcard
  · have alone : s.judged policy tables c = c := if_pos hw
    rw [alone, alone]
  · by_cases adoption : (s.judge tables c).isAdoption
    · obtain ⟨owner, type, hv⟩ := Verdict.exists_eq_adopted adoption
      obtain ⟨-, ⟨t, listed, named⟩, defined⟩ := of_judge_eq_adopted hv
      have itself : TableUse.NamesItself tables owner := unhidden.namesItself listed (by rw [named])
      -- The new table is asked again under its own name.
      have again (e : ColumnUse) (name : e.name = c.name) (table : e.table = some owner) :
          s.judged policy tables e = e.accept (some type) := by
        have ew : ¬e.isWildcard := by rwa [ColumnUse.isWildcard, name]
        have known : s.columnType? owner e.name = some type := by rw [name, defined]
        rw [s.judged_eq_markIn policy tables ew table,
          s.markIn_congr (TableUse.namesItself_iff.1 itself) e, ← s.mark_judgeQualified policy,
          judgeQualified_of_columnType? known]
        rfl
      have adopted : s.judged policy tables c = _ := judged_of_adopted hw hv
      rw [again (s.judged policy tables c) (by rw [adopted]; rfl) (by rw [adopted]; rfl), adopted]
      rfl
    · have marked : s.judged policy tables c = (s.judge tables c).mark policy c := if_neg hw
      have name := Verdict.name_mark policy c (s.judge tables c)
      have verdict : s.judge tables ((s.judge tables c).mark policy c) = s.judge tables c :=
        judge_congr name (Verdict.table_mark adoption)
      have still : ¬((s.judge tables c).mark policy c).isWildcard := by
        rwa [ColumnUse.isWildcard, name]
      rw [marked, judged, if_neg still, verdict, Verdict.mark_mark]

/-- A settled column has a table, or none that would adopt it. -/
theorem not_isAdoption_of_settled (hw : ¬c.isWildcard) (h : s.judged policy tables c = c) :
    ¬(s.judge tables c).isAdoption := by
  intro adoption
  obtain ⟨owner, type, hv⟩ := Verdict.exists_eq_adopted adoption
  have table : (s.judged policy tables c).table = some owner := by
    rw [judged_of_adopted hw hv]
    rfl
  rw [h, (of_judge_eq_adopted hv).1] at table
  cases table

/-- Settled columns are left as they are. -/
theorem judgeColumns_of_settled (h : ∀ c ∈ columns, s.judged policy tables c = c) :
    (s.judgeColumns policy tables columns).1 = columns := by
  have same : columns.map (s.judged policy tables) = columns :=
    (List.map_congr_left h).trans (List.map_id columns)
  have none : ¬((columns.filter (!·.isWildcard)).map (s.judge tables)).any Verdict.isAdoption := by
    rw [List.any_map, List.any_eq_true]
    rintro ⟨c, hc, adoption⟩
    obtain ⟨listed, plain⟩ := List.mem_filter.1 hc
    have hw : ¬c.isWildcard := by simpa using plain
    exact not_isAdoption_of_settled hw (h c listed) adoption
  rw [judgeColumns_columns, if_neg none, same]

/-! ## Merged columns -/

/-- What comes under the key of an adopted column has the standing of that column. -/
theorem standing_judged_of_adopted (clear : f.Clear) (hc : c ∈ f.columns) (hd : d ∈ f.columns)
    (hw : ¬c.isWildcard) {owner type : String} (hv : s.judge f.tables c = .adopted owner type)
    (same : (s.judged policy f.tables c).foldedKey = (s.judged policy f.tables d).foldedKey) :
    (s.judged policy f.tables c).standing = (s.judged policy f.tables d).standing := by
  obtain ⟨bare, ⟨t, listed, named⟩, -⟩ := of_judge_eq_adopted hv
  have key : (s.judged policy f.tables c).foldedKey =
      (Text.foldAscii owner, Text.foldAscii c.name) := by
    rw [judged_of_adopted hw hv]
    rfl
  by_cases moves : ¬d.isWildcard ∧ (s.judge f.tables d).isAdoption
  · obtain ⟨hdw, adoption⟩ := moves
    obtain ⟨owner', type', hv'⟩ := Verdict.exists_eq_adopted adoption
    rw [key, judged_of_adopted hdw hv'] at same
    obtain ⟨sameTable, sameName⟩ := Prod.mk.inj same
    rw [judged, if_neg hw, s.standing_of_adopted policy hv, judged, if_neg hdw,
      s.standing_of_adopted policy hv']
    exact s.standing_markIn_congr (Text.lower_eq_of_sameName (Text.sameName_iff.2 sameTable))
      (Text.lower_eq_of_sameName (Text.sameName_iff.2 sameName))
  · have stays := s.foldedKey_judged policy fun hdw adoption ↦ moves ⟨hdw, adoption⟩
    have target : (Text.foldAscii owner, Text.foldAscii c.name) = d.foldedKey := by
      rw [← key, same, stays]
    obtain ⟨sameTable, sameName⟩ := Prod.mk.inj target
    cases ht : d.table with
    | none =>
      -- A table without a name cannot be told from none, so both are the same column.
      have one : c.foldedKey = d.foldedKey := by
        rw [ColumnUse.foldedKey, ColumnUse.foldedKey, ColumnUse.key, ColumnUse.key, bare, ht,
          sameName]
        rfl
      rw [List.inj_on_of_nodup_map clear.single hc hd one]
    | some q =>
      have hdw : ¬d.isWildcard := by rwa [← ColumnUse.isWildcard_congr sameName]
      rw [ColumnUse.key, ht] at sameTable
      have fits : Text.lower t.name = Text.lower q := by
        rw [named]
        exact Text.lower_eq_of_sameName (Text.sameName_iff.2 sameTable)
      have itself := clear.unhidden.namesItself listed fits
      have stand := s.stand_judged policy clear.single hd hdw ht itself
      rw [stand _ (List.mem_map_of_mem hc) (same.trans stays),
        stand _ (List.mem_map_of_mem hd) stays]

/-- Judged columns of one key have the same standing. -/
theorem standing_judged_congr (clear : f.Clear) (hc : c ∈ f.columns) (hd : d ∈ f.columns)
    (same : (s.judged policy f.tables c).foldedKey = (s.judged policy f.tables d).foldedKey) :
    (s.judged policy f.tables c).standing = (s.judged policy f.tables d).standing := by
  by_cases moves : ¬c.isWildcard ∧ (s.judge f.tables c).isAdoption
  · obtain ⟨hw, adoption⟩ := moves
    obtain ⟨owner, type, hv⟩ := Verdict.exists_eq_adopted adoption
    exact standing_judged_of_adopted clear hc hd hw hv same
  · by_cases moves' : ¬d.isWildcard ∧ (s.judge f.tables d).isAdoption
    · obtain ⟨hw, adoption⟩ := moves'
      obtain ⟨owner, type, hv⟩ := Verdict.exists_eq_adopted adoption
      exact (standing_judged_of_adopted clear hd hc hw hv same.symm).symm
    · rw [s.foldedKey_judged policy fun hw adoption ↦ moves ⟨hw, adoption⟩,
        s.foldedKey_judged policy fun hw adoption ↦ moves' ⟨hw, adoption⟩] at same
      rw [List.inj_on_of_nodup_map clear.single hc hd same]

/-- Judged columns are settled, also where they have been merged. -/
theorem settled_judgeColumns (clear : f.Clear) :
    ∀ c ∈ (s.judgeColumns policy f.tables f.columns).1, s.judged policy f.tables c = c := by
  rw [judgeColumns_columns]
  split
  · intro d hd
    have alike : ∀ c ∈ f.columns.map (s.judged policy f.tables),
        ∀ e ∈ f.columns.map (s.judged policy f.tables),
          c.foldedKey = e.foldedKey → c.standing = e.standing :=
      List.forall_mem_map.2 fun c hc ↦ List.forall_mem_map.2 fun e he ↦
        standing_judged_congr clear hc he
    obtain ⟨c, hc, -, same⟩ := ColumnUse.exists_used_of_mem_dedup alike hd
    obtain ⟨c, -, rfl⟩ := List.mem_map.1 hc
    rw [same, judged_used, judged_judged clear.unhidden]
  · exact List.forall_mem_map.2 fun c _ ↦ judged_judged clear.unhidden c

/-! ## Trees -/

theorem annotate_annotate (clear : ∀ g ∈ f.parts, g.Clear) :
    (s.annotate policy (s.annotate policy f).1).1 = (s.annotate policy f).1 := by
  induction f using Footprint.induct with
  | step f ih =>
    obtain ⟨ownClear, innerClear⟩ := Footprint.forall_parts_iff.1 clear
    have own : (s.judgeColumns policy f.tables (s.judgeColumns policy f.tables f.columns).1).1 =
        (s.judgeColumns policy f.tables f.columns).1 :=
      judgeColumns_of_settled (settled_judgeColumns ownClear)
    obtain ⟨ctes, subqueries⟩ :=
      Footprint.map_children_congr fun g hg ↦ ih g hg (innerClear g hg)
    rw [s.annotate_footprint policy (s.annotate policy f).1, s.annotate_footprint policy f]
    simp only [judgeOwn, own, List.map_map, Function.comp_def, ctes, subqueries]

end Schema

namespace Footprint

/-- Where keys are distinct in every footprint of a tree and no alias hides the name of another
table, validating the tree a second time leaves it exactly as it is. -/
theorem validate_validate {f : Footprint}
    (distinct : ∀ g ∈ f.parts, g.columns.Pairwise fun c d ↦ ¬c.hasKey d.key.1 d.key.2)
    (unhidden : ∀ g ∈ f.parts, TableUse.Unhidden g.tables) (s : Schema) (policy : AmbiguityPolicy) :
    (s.validate policy (s.validate policy f).1).1 = (s.validate policy f).1 := by
  refine s.annotate_annotate fun g hg ↦ ⟨?_, unhidden g hg⟩
  exact ColumnUse.nodup_foldedKey_iff.2 (distinct g hg)

/-- In `SELECT user_id, nope FROM orders o WHERE o.user_id > 3` the first pass adopts a column and
merges it with the one in the condition, and the second pass finds nothing to do. -/
theorem validate_validate_sample :
    let column (path : List String) (name : String) : Sql.Expr :=
      .column (path.map (⟨·, none⟩)) ⟨name, none⟩
    let query : Sql.Query := .plain [.expr (column [] "user_id"), .expr (column [] "nope")]
      [.named [⟨"orders", none⟩] "o"]
      (some (.binary (column ["o"] "user_id") (.compare .gt) (.constant "3")))
    let s := Schema.empty.insert ⟨"orders", none, [⟨"user_id", "INT", true, false, false⟩]⟩
    let f := ofStatement 9 (.query query) ""
    (∀ g ∈ f.parts, g.columns.Pairwise fun c d ↦ ¬c.hasKey d.key.1 d.key.2) ∧
      (∀ g ∈ f.parts, TableUse.Unhidden g.tables) ∧
      f.columns.length = 3 ∧ (s.validate .unknown f).1.columns.length = 2 ∧
      (s.validate .unknown (s.validate .unknown f).1).1 = (s.validate .unknown f).1 := by
  intro column query s f
  have distinct : ∀ g ∈ f.parts, g.columns.Pairwise fun c d ↦ ¬c.hasKey d.key.1 d.key.2 := by
    decide +kernel
  have unhidden : ∀ g ∈ f.parts, TableUse.Unhidden g.tables := by decide +kernel
  exact ⟨distinct, unhidden, by decide +kernel, by decide +kernel,
    validate_validate distinct unhidden s .unknown⟩

end Footprint

end SqlFootprint
