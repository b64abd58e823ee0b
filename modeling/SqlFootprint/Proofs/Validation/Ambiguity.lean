import SqlFootprint.Proofs.Validation.Conservation
import SqlFootprint.Proofs.Validation.Counting

/-!
# Ambiguous columns

The policy decides what becomes of a column that several tables define, and it decides nothing else.
Such a column gets no table, so that it keeps its key. Nor does another column come under that key:
a column that is adopted by a table without a name would have been the same column before. So an
ambiguous column is merged with no other. It neither takes over a verdict nor passes on its own, and
under both policies there are the same columns in the same places.
-/

namespace SqlFootprint

/-! ## Columns that share their key with none -/

namespace ColumnUse

theorem dedup_cons (c : ColumnUse) (new : List ColumnUse) :
    recordAll [] (c :: new) =
      (new.filter (·.foldedKey = c.foldedKey)).foldl merge c ::
        recordAll [] (new.filter (·.foldedKey ≠ c.foldedKey)) :=
  recordAll_cons c [] new

/-- Columns can be taken key by key: after the first one, those that do not stand under its key. -/
theorem dedup_induct {P : List ColumnUse → Prop} (nil : P [])
    (cons : ∀ c new, P (new.filter (·.foldedKey ≠ c.foldedKey)) → P (c :: new)) :
    ∀ new, P new
  | [] => nil
  | c :: new => cons c new (dedup_induct nil cons _)
termination_by new => new.length
decreasing_by
  exact Nat.lt_succ_of_le (List.length_filter_le _ _)

section Alone

variable {p : ColumnUse → Bool} {c : ColumnUse} {new : List ColumnUse}

/-- Marked columns share their keys with no others. -/
def Alone (p : ColumnUse → Bool) (columns : List ColumnUse) : Prop :=
  columns.Pairwise fun c d ↦ c.foldedKey = d.foldedKey → ¬p c ∧ ¬p d

theorem mark_foldl_merge (marks : ∀ c d, p (c.merge d) = p c) (c : ColumnUse)
    (ds : List ColumnUse) : p (ds.foldl merge c) = p c := by
  induction ds generalizing c with
  | nil => rfl
  | cons d ds ih => rw [List.foldl_cons, ih, marks]

theorem Alone.filter_eq_nil (alone : Alone p (c :: new)) (hc : p c) :
    new.filter (·.foldedKey = c.foldedKey) = [] :=
  List.filter_eq_nil_iff.2 fun d hd same ↦
    ((List.pairwise_cons.1 alone).1 d hd (of_decide_eq_true same).symm).1 hc

/-- Merging leaves them as they are. -/
theorem filter_dedup_of_alone (marks : ∀ c d, p (c.merge d) = p c) (alone : Alone p new) :
    (recordAll [] new).filter p = new.filter p := by
  induction new using dedup_induct with
  | nil => rfl
  | cons c new ih =>
    obtain ⟨first, rest⟩ := List.pairwise_cons.1 alone
    have others : (new.filter (·.foldedKey ≠ c.foldedKey)).filter p = new.filter p := by
      rw [List.filter_filter]
      refine List.filter_congr fun d hd ↦ ?_
      by_cases same : c.foldedKey = d.foldedKey
      · rw [Bool.eq_false_iff.2 (first d hd same).2, Bool.false_and]
      · rw [decide_eq_true (Ne.symm same), Bool.and_true]
    rw [dedup_cons, List.filter_cons, List.filter_cons, ih (rest.filter _), others,
      mark_foldl_merge marks]
    split
    · rw [alone.filter_eq_nil ‹_›, List.foldl_nil]
    · rfl

/-- What is done to them alone may be done before or after columns are merged. -/
theorem map_dedup_of_alone {φ : ColumnUse → ColumnUse}
    (keys : ∀ c, (φ c).foldedKey = c.foldedKey) (fixed : ∀ c, ¬p c → φ c = c)
    (marks : ∀ c d, p (c.merge d) = p c) (alone : Alone p new) :
    (recordAll [] new).map φ = recordAll [] (new.map φ) := by
  induction new using dedup_induct with
  | nil => rfl
  | cons c new ih =>
    obtain ⟨first, rest⟩ := List.pairwise_cons.1 alone
    have head : φ ((new.filter (·.foldedKey = c.foldedKey)).foldl merge c) =
        ((new.filter (·.foldedKey = c.foldedKey)).map φ).foldl merge (φ c) := by
      by_cases hc : p c
      · rw [alone.filter_eq_nil hc]
        rfl
      · have still : (new.filter (·.foldedKey = c.foldedKey)).map φ =
            new.filter (·.foldedKey = c.foldedKey) := by
          refine (List.map_congr_left fun d hd ↦ ?_).trans (List.map_id _)
          obtain ⟨listed, same⟩ := List.mem_filter.1 hd
          exact fixed d (first d listed (of_decide_eq_true same).symm).2
        rw [still, fixed c hc, fixed]
        rwa [mark_foldl_merge marks]
    rw [List.map_cons, dedup_cons, dedup_cons, List.map_cons, ih (rest.filter _), head,
      List.filter_map, List.filter_map]
    simp only [Function.comp_def, keys]

end Alone

end ColumnUse

namespace Schema

variable {s : Schema} {policy : AmbiguityPolicy} {tables : List TableUse} {c d : ColumnUse}
  {columns : List ColumnUse}

/-- The report that a column is ambiguous, if it is. -/
def ambiguity? (s : Schema) (tables : List TableUse) (c : ColumnUse) : Option Issue :=
  if c.isWildcard then none else (s.judge tables c).issue?.filter Issue.isAmbiguousColumn

def isAmbiguous (s : Schema) (tables : List TableUse) (c : ColumnUse) : Bool :=
  (s.ambiguity? tables c).isSome

/-! ## Single columns -/

theorem ambiguity?_congr (name : c.name = d.name) (table : c.table = d.table) :
    s.ambiguity? tables c = s.ambiguity? tables d := by
  rw [ambiguity?, ambiguity?, ColumnUse.isWildcard, ColumnUse.isWildcard, name,
    judge_congr name table]

theorem ambiguity?_of_table {table : String} (ht : c.table = some table) :
    s.ambiguity? tables c = none := by
  unfold ambiguity? judge judgeQualified
  rw [ht]
  split
  · rfl
  · dsimp only
    split
    · split
      · rfl
      · rfl
    · rfl

/-- An ambiguous column has no table. -/
theorem of_isAmbiguous (h : s.isAmbiguous tables c) :
    ¬c.isWildcard ∧ c.table = none ∧
      ∃ column candidates, s.judge tables c = .ambiguousColumn column candidates := by
  have bare : c.table = none := by
    cases ht : c.table with
    | none => rfl
    | some table =>
      rw [isAmbiguous, ambiguity?_of_table ht] at h
      cases h
  by_cases hw : c.isWildcard
  · rw [isAmbiguous, ambiguity?, if_pos hw] at h
    cases h
  · refine ⟨hw, bare, ?_⟩
    rw [isAmbiguous, ambiguity?, if_neg hw] at h
    cases hv : s.judge tables c with
    | ambiguousColumn column candidates => exact ⟨column, candidates, rfl⟩
    | unjudged | valid | adopted | unknownColumn =>
      rw [hv] at h
      cases h

/-- A column that has been judged is as ambiguous as before. -/
theorem ambiguity?_judged :
    s.ambiguity? tables (s.judged policy tables c) = s.ambiguity? tables c := by
  by_cases hw : c.isWildcard
  · rw [judged, if_pos hw]
  · by_cases adoption : (s.judge tables c).isAdoption
    · obtain ⟨owner, type, hv⟩ := Verdict.exists_eq_adopted adoption
      have owned : (s.judged policy tables c).table = some owner := by
        rw [judged_of_adopted hw hv]
        rfl
      rw [ambiguity?_of_table owned, ambiguity?, if_neg hw, hv]
      rfl
    · refine ambiguity?_congr (name_judged tables c) ?_
      rw [judged, if_neg hw, Verdict.table_mark adoption]

theorem isAmbiguous_judged :
    s.isAmbiguous tables (s.judged policy tables c) = s.isAmbiguous tables c :=
  congrArg Option.isSome ambiguity?_judged

/-- The policy makes a difference to an ambiguous column only. -/
theorem judged_unknown (c : ColumnUse) :
    s.judged .unknown tables c =
      if s.isAmbiguous tables c then { s.judged .assumeValid tables c with valid := none }
      else s.judged .assumeValid tables c := by
  split
  · obtain ⟨hw, -, column, candidates, hv⟩ := of_isAmbiguous ‹_›
    rw [judged, judged, if_neg hw, if_neg hw, hv]
    rfl
  · rename_i plain
    by_cases hw : c.isWildcard
    · rw [judged, judged, if_pos hw, if_pos hw]
    · rw [judged, judged, if_neg hw, if_neg hw]
      cases hv : s.judge tables c with
      | ambiguousColumn column candidates =>
        rw [isAmbiguous, ambiguity?, if_neg hw, hv] at plain
        exact absurd rfl plain
      | unjudged | valid | adopted | unknownColumn => rfl

theorem judged_of_isAmbiguous (h : s.isAmbiguous tables c) :
    s.judged .assumeValid tables c = c.accept none := by
  obtain ⟨hw, -, column, candidates, hv⟩ := of_isAmbiguous h
  rw [judged, if_neg hw, hv]
  rfl

/-! ## Columns of a footprint -/

/-- No other column comes under the key of an ambiguous one. -/
theorem foldedKey_judged_ne_of_isAmbiguous (h : s.isAmbiguous tables c)
    (apart : c.foldedKey ≠ d.foldedKey) :
    (s.judged policy tables c).foldedKey ≠ (s.judged policy tables d).foldedKey := by
  obtain ⟨-, bare, column, candidates, hv⟩ := of_isAmbiguous h
  have stays : (s.judged policy tables c).foldedKey = c.foldedKey := by
    refine s.foldedKey_judged policy fun _ adoption ↦ ?_
    rw [hv] at adoption
    cases adoption
  rw [stays]
  intro same
  by_cases moves : ¬d.isWildcard ∧ (s.judge tables d).isAdoption
  · obtain ⟨hw, adoption⟩ := moves
    obtain ⟨owner, type, hv'⟩ := Verdict.exists_eq_adopted adoption
    rw [judged_of_adopted hw hv'] at same
    -- Neither had a table before, so the same name makes the same key.
    refine apart (Prod.ext ?_ (Prod.mk.inj same).2)
    rw [ColumnUse.foldedKey, ColumnUse.foldedKey, ColumnUse.key, ColumnUse.key, bare,
      (of_judge_eq_adopted hv').1]
  · rw [s.foldedKey_judged policy fun hw adoption ↦ moves ⟨hw, adoption⟩] at same
    exact apart same

theorem alone_judged (single : (columns.map ColumnUse.foldedKey).Nodup) :
    ColumnUse.Alone (s.isAmbiguous tables) (columns.map (s.judged policy tables)) := by
  have plain {c d : ColumnUse} (apart : c.foldedKey ≠ d.foldedKey)
      (same : (s.judged policy tables c).foldedKey = (s.judged policy tables d).foldedKey) :
      ¬s.isAmbiguous tables (s.judged policy tables c) := by
    rw [isAmbiguous_judged]
    exact fun h ↦ foldedKey_judged_ne_of_isAmbiguous h apart same
  rw [ColumnUse.Alone, List.pairwise_map]
  refine (List.pairwise_map.1 single).imp fun apart same ↦ ⟨?_, ?_⟩
  · exact plain apart same
  · exact plain apart.symm same.symm

theorem isAmbiguous_merge (c d : ColumnUse) :
    s.isAmbiguous tables (c.merge d) = s.isAmbiguous tables c :=
  congrArg Option.isSome (ambiguity?_congr rfl rfl)

/-- Each ambiguous column of a footprint is found after judging, in the same order. -/
theorem filter_isAmbiguous_judgeColumns (single : (columns.map ColumnUse.foldedKey).Nodup) :
    (s.judgeColumns policy tables columns).1.filter (s.isAmbiguous tables) =
      (columns.filter (s.isAmbiguous tables)).map (s.judged policy tables) := by
  have marks : s.isAmbiguous tables ∘ s.judged policy tables = s.isAmbiguous tables :=
    funext fun _ ↦ isAmbiguous_judged
  rw [s.judgeColumns_eq_recordAll policy single,
    ColumnUse.filter_dedup_of_alone isAmbiguous_merge (alone_judged single), List.filter_map, marks]

theorem filterMap_ambiguity?_judgeColumns (single : (columns.map ColumnUse.foldedKey).Nodup) :
    (s.judgeColumns policy tables columns).1.filterMap (s.ambiguity? tables) =
      columns.filterMap (s.ambiguity? tables) := by
  have marked (l : List ColumnUse) : l.filterMap (s.ambiguity? tables) =
      (l.filter (s.isAmbiguous tables)).filterMap (s.ambiguity? tables) := by
    rw [List.filterMap_filter]
    refine List.filterMap_congr fun c _ ↦ ?_
    unfold isAmbiguous
    cases s.ambiguity? tables c with
    | none => rfl
    | some issue => rfl
  have judged : s.ambiguity? tables ∘ s.judged policy tables = s.ambiguity? tables :=
    funext fun _ ↦ ambiguity?_judged
  rw [marked, filter_isAmbiguous_judgeColumns single, List.filterMap_map, judged, ← marked]

/-- Under the other policy an ambiguous column is left open, and all else is the same. -/
theorem judgeColumns_unknown (single : (columns.map ColumnUse.foldedKey).Nodup) :
    (s.judgeColumns .unknown tables columns).1 =
      (s.judgeColumns .assumeValid tables columns).1.map fun c ↦
        if s.isAmbiguous tables c then { c with valid := none } else c := by
  have judged : columns.map (s.judged .unknown tables) =
      (columns.map (s.judged .assumeValid tables)).map fun c ↦
        if s.isAmbiguous tables c then { c with valid := none } else c := by
    rw [List.map_map]
    refine List.map_congr_left fun c _ ↦ ?_
    rw [judged_unknown, Function.comp_apply, isAmbiguous_judged]
  rw [s.judgeColumns_eq_recordAll .unknown single, s.judgeColumns_eq_recordAll .assumeValid single,
    judged, ColumnUse.map_dedup_of_alone ?_ ?_ isAmbiguous_merge (alone_judged single)]
  · intro c
    split
    · rfl
    · rfl
  · exact fun c plain ↦ if_neg plain

/-! ## Trees -/

/-- Verdicts do not depend on the policy. -/
theorem annotate_verdicts_congr (s : Schema) (policy policy' : AmbiguityPolicy) (f : Footprint) :
    (s.annotate policy f).2 = (s.annotate policy' f).2 := by
  induction f using Footprint.induct with
  | step f ih =>
    rw [annotate_verdicts, annotate_verdicts, List.flatMap_congr ih]

/-- The ambiguous columns of a tree are reported, each once. -/
theorem perm_ambiguous_issues (s : Schema) (policy : AmbiguityPolicy) (f : Footprint) :
    ((s.validate policy f).2.issues.filter Issue.isAmbiguousColumn).Perm
      (f.parts.flatMap fun g ↦ g.columns.filterMap (s.ambiguity? g.tables)) := by
  have own (g : Footprint) : ((s.ownVerdicts g).filterMap Verdict.issue?).filter
      Issue.isAmbiguousColumn = g.columns.filterMap (s.ambiguity? g.tables) := by
    rw [ownVerdicts, List.filterMap_map, List.filterMap_filter, List.filter_filterMap]
    refine List.filterMap_congr fun c _ ↦ ?_
    unfold ambiguity?
    cases c.isWildcard <;> rfl
  have perm := ((s.perm_annotate_verdicts policy f).filterMap Verdict.issue?).filter
    Issue.isAmbiguousColumn
  rw [List.filterMap_flatMap, List.filter_flatMap] at perm
  simp only [own] at perm
  have issues : (s.validate policy f).2.issues = _ := ValidationSummary.issues_ofVerdicts _
  rw [issues]
  exact perm

end Schema

namespace Footprint

/-- Whichever policy a schema validates the tree of a statement by, it counts and reports the same,
and the annotated trees differ in nothing but the verdict on ambiguous columns: these are valid,
without a type, by one policy, and open by the other. They are the columns that are reported as
ambiguous, each once, also where adopted columns have been merged. -/
theorem policies_differ_in_ambiguous (limit : Nat) (statement : Sql.Statement) (text : String)
    (s : Schema) :
    let f := ofStatement limit statement text
    let (assumed, summary) := s.validate .assumeValid f
    let (unknown, summary') := s.validate .unknown f
    summary = summary' ∧
    (unknown = assumed.mapColumns fun tables columns ↦ columns.map fun c ↦
      if s.isAmbiguous tables c then { c with valid := none } else c) ∧
    (∀ g ∈ assumed.parts, ∀ c ∈ g.columns, s.isAmbiguous g.tables c →
      c.valid = some true ∧ c.type = none) ∧
    (summary.issues.filter Issue.isAmbiguousColumn).Perm
      (assumed.parts.flatMap fun g ↦ g.columns.filterMap (s.ambiguity? g.tables)) := by
  intro f
  have single : ∀ g ∈ f.parts, (g.columns.map ColumnUse.foldedKey).Nodup :=
    fun g hg ↦ (isSound_ofStatement limit statement text g hg).columns
  have parts := s.parts_annotate .assumeValid f
  refine ⟨?_, ?_, ?_, ?_⟩
  · exact congrArg ValidationSummary.ofVerdicts (s.annotate_verdicts_congr .assumeValid .unknown f)
  · change (s.annotate .unknown f).1 = (s.annotate .assumeValid f).1.mapColumns _
    rw [s.annotate_eq_mapColumns, s.annotate_eq_mapColumns, mapColumns_mapColumns]
    exact mapColumns_congr fun g hg ↦ Schema.judgeColumns_unknown (single g hg)
  · change ∀ g ∈ (s.annotate .assumeValid f).1.parts, _
    rw [parts, List.forall_mem_map]
    intro g hg c hc ambiguous
    rw [s.annotate_footprint] at hc ambiguous
    have listed : c ∈ (s.judgeColumns .assumeValid g.tables g.columns).1.filter
        (s.isAmbiguous g.tables) := List.mem_filter.2 ⟨hc, ambiguous⟩
    rw [Schema.filter_isAmbiguous_judgeColumns (single g hg)] at listed
    obtain ⟨d, hd, rfl⟩ := List.mem_map.1 listed
    rw [Schema.judged_of_isAmbiguous (List.mem_filter.1 hd).2]
    exact ⟨rfl, rfl⟩
  · have after : (s.annotate .assumeValid f).1.parts.flatMap
          (fun g ↦ g.columns.filterMap (s.ambiguity? g.tables)) =
        f.parts.flatMap fun g ↦ g.columns.filterMap (s.ambiguity? g.tables) := by
      rw [parts, List.flatMap_map]
      refine List.flatMap_congr fun g hg ↦ ?_
      rw [s.annotate_footprint]
      exact Schema.filterMap_ambiguity?_judgeColumns (single g hg)
    change List.Perm _ ((s.annotate .assumeValid f).1.parts.flatMap _)
    rw [after]
    exact s.perm_ambiguous_issues .assumeValid f

/-- In `SELECT id, total FROM users u, orders o WHERE o.total > 3` the first column is ambiguous,
and the second one is adopted and merged with the one in the condition. -/
theorem policies_differ_in_ambiguous_sample :
    let column (path : List String) (name : String) : Sql.Expr :=
      .column (path.map (⟨·, none⟩)) ⟨name, none⟩
    let query : Sql.Query := .plain [.expr (column [] "id"), .expr (column [] "total")]
      [.named [⟨"users", none⟩] "u", .named [⟨"orders", none⟩] "o"]
      (some (.binary (column ["o"] "total") (.compare .gt) (.constant "3")))
    let id : SchemaColumn := { name := "id", type := "INT" }
    let users : SchemaTable := ⟨"users", none, [id]⟩
    let orders : SchemaTable := ⟨"orders", none, [id, { name := "total", type := "INT" }]⟩
    let s := (Schema.empty.insert users).insert orders
    let f := ofStatement 9 (.query query) ""
    let assumed := (s.validate .assumeValid f).1
    f.columns.length = 3 ∧ assumed.columns.length = 2 ∧
      ∃ c ∈ assumed.columns,
        s.isAmbiguous assumed.tables c ∧ c.valid = some true ∧ c.type = none := by
  intro column query id users orders s f assumed
  obtain ⟨-, -, marked, -⟩ := policies_differ_in_ambiguous 9 (.query query) "" s
  have listed : ∃ c ∈ assumed.columns, s.isAmbiguous assumed.tables c := by decide +kernel
  obtain ⟨c, hc, ambiguous⟩ := listed
  refine ⟨by decide +kernel, by decide +kernel, c, hc, ambiguous, ?_⟩
  exact marked assumed assumed.mem_parts_self c hc ambiguous

end Footprint

end SqlFootprint
