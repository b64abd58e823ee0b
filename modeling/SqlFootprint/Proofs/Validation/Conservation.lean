import SqlFootprint.Proofs.Validation.Stability

/-!
# What validation leaves as it is

Validation annotates a tree. Apart from columns it changes nothing, at any depth. A column keeps its
name, its alias and its roles; what it may get is a verdict and, if it has no table, one of those
that are listed. Columns that have come under one key by that are merged into the first of them, so
that every role is still played under the key that its column ends up with, and no other is.

Where the keys of a footprint are distinct, columns may be taken to be merged in any case: they are
under different keys still if none of them has been adopted.
-/

namespace SqlFootprint

/-! ## Annotated columns -/

namespace ColumnUse

/-- What validation may do to a column. A wildcard stays as it is. Another one gets a verdict, and
one of the tables if it has none. -/
structure IsAnnotated (tables : List TableUse) (c d : ColumnUse) : Prop where
  wildcard : c.isWildcard → d = c
  same : d = { c with table := d.table, valid := d.valid, type := d.type }
  table : d.table = c.table ∨ c.table = none ∧ ∃ t ∈ tables, d.table = some t.name

/-- Columns with those that stand under one key merged into the first of them. -/
structure IsMerged (columns merged : List ColumnUse) : Prop where
  keys : merged.map foldedKey = (columns.map foldedKey).eraseDups
  classes : ∀ d ∈ merged, ∃ c rest,
    columns.filter (·.foldedKey = d.foldedKey) = c :: rest ∧ d = c.together (c :: rest)

theorem isMerged_recordAll (columns : List ColumnUse) :
    IsMerged columns (recordAll [] columns) where
  keys := map_foldedKey_dedup columns
  classes _ := exists_class_of_mem_dedup

end ColumnUse

namespace Schema

variable (s : Schema) (policy : AmbiguityPolicy) {tables : List TableUse} {columns : List ColumnUse}

theorem isAnnotated_judged (tables : List TableUse) (c : ColumnUse) :
    c.IsAnnotated tables (s.judged policy tables c) := by
  by_cases hw : c.isWildcard
  · have alone : s.judged policy tables c = c := if_pos hw
    rw [alone]
    exact ⟨fun _ ↦ rfl, rfl, .inl rfl⟩
  · refine ⟨fun h ↦ absurd h hw, ?_, ?_⟩
    · rw [judged, if_neg hw]
      cases s.judge tables c with
      | ambiguousColumn column candidates => cases policy <;> rfl
      | unjudged | valid | adopted | unknownColumn => rfl
    · by_cases adoption : (s.judge tables c).isAdoption
      · obtain ⟨owner, type, hv⟩ := Verdict.exists_eq_adopted adoption
        obtain ⟨bare, ⟨t, listed, named⟩, -⟩ := of_judge_eq_adopted hv
        refine .inr ⟨bare, t, listed, ?_⟩
        rw [judged_of_adopted hw hv, named]
        rfl
      · rw [judged, if_neg hw]
        exact .inl (Verdict.table_mark adoption)

theorem roles_judged (tables : List TableUse) (c : ColumnUse) :
    (s.judged policy tables c).roles = c.roles := by
  rw [(s.isAnnotated_judged policy tables c).same]

theorem isWildcard_judged (tables : List TableUse) (c : ColumnUse) :
    (s.judged policy tables c).isWildcard = c.isWildcard := by
  rw [ColumnUse.isWildcard, name_judged, ColumnUse.isWildcard]

/-- Where keys are distinct, columns may be merged whether one was adopted or not. -/
theorem judgeColumns_eq_recordAll (single : (columns.map ColumnUse.foldedKey).Nodup) :
    (s.judgeColumns policy tables columns).1 =
      ColumnUse.recordAll [] (columns.map (s.judged policy tables)) := by
  have distinct := s.nodup_judgeColumns policy tables single
  rw [judgeColumns_columns] at distinct ⊢
  split
  · rfl
  · rw [if_neg ‹_›] at distinct
    symm
    exact ColumnUse.recordAll_of_nodup distinct

/-- Wildcards stay as they are, and keep their order. -/
theorem filter_isWildcard_judgeColumns (single : (columns.map ColumnUse.foldedKey).Nodup) :
    (s.judgeColumns policy tables columns).1.filter (·.isWildcard) =
      columns.filter (·.isWildcard) := by
  have keyed (c d : ColumnUse) (same : c.foldedKey = d.foldedKey) : c.isWildcard = d.isWildcard :=
    ColumnUse.isWildcard_congr (Prod.mk.inj same).2
  have still : (columns.map (s.judged policy tables)).filter (·.isWildcard) =
      columns.filter (·.isWildcard) := by
    have stay : (·.isWildcard) ∘ s.judged policy tables = (·.isWildcard) :=
      funext (s.isWildcard_judged policy tables)
    rw [List.filter_map, stay]
    refine (List.map_congr_left fun c hc ↦ ?_).trans (List.map_id _)
    exact if_pos (List.mem_filter.1 hc).2
  have apart : ((columns.filter (·.isWildcard)).map ColumnUse.foldedKey).Nodup :=
    single.sublist (List.filter_sublist.map _)
  rw [s.judgeColumns_eq_recordAll policy single, ColumnUse.filter_recordAll keyed, still]
  exact ColumnUse.recordAll_of_nodup apart

/-- The roles of a column after judging are those of all columns that end up under its key. -/
theorem has_judgeColumns_iff (single : (columns.map ColumnUse.foldedKey).Nodup) {d : ColumnUse}
    (hd : d ∈ (s.judgeColumns policy tables columns).1) (role : Role) :
    d.roles.has role ↔
      ∃ c ∈ columns, (s.judged policy tables c).foldedKey = d.foldedKey ∧ c.roles.has role := by
  rw [s.judgeColumns_eq_recordAll policy single] at hd
  rw [ColumnUse.has_iff_playing_dedup hd]
  constructor
  · rintro ⟨e, he, same, has⟩
    obtain ⟨c, hc, rfl⟩ := List.mem_map.1 he
    rw [roles_judged] at has
    exact ⟨c, hc, same, has⟩
  · rintro ⟨c, hc, same, has⟩
    refine ⟨_, List.mem_map_of_mem hc, same, ?_⟩
    rwa [roles_judged]

end Schema

/-! ## Trees with other columns -/

namespace Footprint

section MapColumns

variable (φ ψ : List TableUse → List ColumnUse → List ColumnUse)

mutual

/-- A tree with the columns of each footprint replaced, with regard to its tables. -/
def mapColumns : Footprint → Footprint
  | ⟨kind, tables, columns, joins, conditions, ctes, subqueries, text, notices⟩ =>
    ⟨kind, tables, φ tables columns, joins, conditions, mapColumnsOfAll ctes,
      mapColumnsOfAll subqueries, text, notices⟩

def mapColumnsOfAll : List Footprint → List Footprint
  | [] => []
  | f :: fs => f.mapColumns :: mapColumnsOfAll fs

end

theorem mapColumnsOfAll_eq (fs : List Footprint) :
    mapColumnsOfAll φ fs = fs.map (mapColumns φ) := by
  induction fs with
  | nil => rfl
  | cons f fs ih => rw [mapColumnsOfAll, ih, List.map_cons]

theorem mapColumns_eq (f : Footprint) :
    f.mapColumns φ =
      { f with
        columns := φ f.tables f.columns
        ctes := f.ctes.map (mapColumns φ)
        subqueries := f.subqueries.map (mapColumns φ) } := by
  cases f
  rw [mapColumns, mapColumnsOfAll_eq, mapColumnsOfAll_eq]

theorem mapColumns_mapColumns (f : Footprint) :
    (f.mapColumns φ).mapColumns ψ =
      f.mapColumns fun tables columns ↦ ψ tables (φ tables columns) := by
  induction f using induct with
  | step f ih =>
    obtain ⟨ctes, subqueries⟩ := map_children_congr ih
    rw [mapColumns_eq, mapColumns_eq φ f, mapColumns_eq _ f]
    simp only [List.map_map, Function.comp_def, ctes, subqueries]

variable {φ ψ} in
theorem mapColumns_congr {f : Footprint}
    (h : ∀ g ∈ f.parts, φ g.tables g.columns = ψ g.tables g.columns) :
    f.mapColumns φ = f.mapColumns ψ := by
  induction f using induct with
  | step f ih =>
    obtain ⟨own, inner⟩ := forall_parts_iff.1 h
    obtain ⟨ctes, subqueries⟩ := map_children_congr fun g hg ↦ ih g hg (inner g hg)
    rw [mapColumns_eq, mapColumns_eq ψ, own, ctes, subqueries]

end MapColumns

/-- A footprint without its columns, and without those of all that it contains. -/
def frame (f : Footprint) : Footprint :=
  f.mapColumns fun _ _ ↦ []

end Footprint

namespace Schema

/-- Validation changes a tree in its columns only. -/
theorem annotate_eq_mapColumns (s : Schema) (policy : AmbiguityPolicy) (f : Footprint) :
    (s.annotate policy f).1 =
      f.mapColumns fun tables columns ↦ (s.judgeColumns policy tables columns).1 := by
  induction f using Footprint.induct with
  | step f ih =>
    obtain ⟨ctes, subqueries⟩ := Footprint.map_children_congr ih
    rw [annotate_footprint, Footprint.mapColumns_eq, ctes, subqueries]
    rfl

theorem frame_annotate (s : Schema) (policy : AmbiguityPolicy) (f : Footprint) :
    (s.annotate policy f).1.frame = f.frame := by
  rw [annotate_eq_mapColumns, Footprint.frame, Footprint.mapColumns_mapColumns]
  rfl

end Schema

/-! ## Annotated trees -/

namespace Footprint

/-- A footprint with its columns annotated one by one, and merged where their keys then agree. -/
structure IsAnnotated (judged : ColumnUse → ColumnUse) (before after : Footprint) : Prop where
  each : ∀ c ∈ before.columns, c.IsAnnotated before.tables (judged c)
  merged : ColumnUse.IsMerged (before.columns.map judged) after.columns
  wildcards : after.columns.filter (·.isWildcard) = before.columns.filter (·.isWildcard)
  /-- No role is lost and none is added. -/
  roles : ∀ d ∈ after.columns, ∀ role, d.roles.has role ↔
    ∃ c ∈ before.columns, (judged c).foldedKey = d.foldedKey ∧ c.roles.has role

theorem isAnnotated_annotate (s : Schema) (policy : AmbiguityPolicy) {f : Footprint}
    (single : (f.columns.map ColumnUse.foldedKey).Nodup) :
    f.IsAnnotated (s.judged policy f.tables) (s.annotate policy f).1 := by
  rw [s.annotate_footprint]
  refine ⟨fun c _ ↦ s.isAnnotated_judged policy f.tables c, ?_, ?_, ?_⟩
  · change ColumnUse.IsMerged _ (s.judgeColumns policy f.tables f.columns).1
    rw [s.judgeColumns_eq_recordAll policy single]
    exact ColumnUse.isMerged_recordAll _
  · exact s.filter_isWildcard_judgeColumns policy single
  · exact fun d hd ↦ s.has_judgeColumns_iff policy single hd

/-- Where keys are distinct in every footprint of a tree, validation only annotates. All but the
columns is as before, at any depth. Wildcards are as before as well. Each of the other columns gets
no more than a verdict, and a table if it has none; those that have come under one key are merged
into the first of them, and what is played under that key is what its columns played before. -/
theorem validate_annotates {f : Footprint}
    (distinct : ∀ g ∈ f.parts, g.columns.Pairwise fun c d ↦ ¬c.hasKey d.key.1 d.key.2)
    (s : Schema) (policy : AmbiguityPolicy) :
    let g := (s.validate policy f).1
    g.frame = f.frame ∧
      List.Forall₂ (fun before after ↦ before.IsAnnotated (s.judged policy before.tables) after)
        f.parts g.parts := by
  intro g
  refine ⟨s.frame_annotate policy f, ?_⟩
  have parts : g.parts = f.parts.map fun part ↦ (s.annotate policy part).1 :=
    s.parts_annotate policy f
  rw [parts, List.forall₂_map_right_iff, List.forall₂_same]
  intro part hp
  exact isAnnotated_annotate s policy (ColumnUse.nodup_foldedKey_iff.2 (distinct part hp))

/-- In `SELECT user_id, * FROM orders o WHERE o.user_id > 3` the first column is adopted and merged
with the one in the condition, whose role it gets. The wildcard stays. -/
theorem validate_annotates_sample :
    let column (path : List String) (name : String) : Sql.Expr :=
      .column (path.map (⟨·, none⟩)) ⟨name, none⟩
    let query : Sql.Query := .plain [.expr (column [] "user_id"), .wildcard []]
      [.named [⟨"orders", none⟩] "o"]
      (some (.binary (column ["o"] "user_id") (.compare .gt) (.constant "3")))
    let s := Schema.empty.insert ⟨"orders", none, [⟨"user_id", "INT", true, false, false⟩]⟩
    let f := ofStatement 9 (.query query) ""
    let g := (s.validate .unknown f).1
    (∀ part ∈ f.parts, part.columns.Pairwise fun c d ↦ ¬c.hasKey d.key.1 d.key.2) ∧
      f.columns.length = 3 ∧ g.columns.length = 2 ∧ g.frame = f.frame ∧
      g.columns.filter (·.isWildcard) = f.columns.filter (·.isWildcard) ∧
      ∃ d ∈ g.columns, d.foldedKey = ("orders", "user_id") ∧
        d.roles.has .selected ∧ d.roles.has .filtered := by
  intro column query s f g
  have distinct : ∀ part ∈ f.parts, part.columns.Pairwise fun c d ↦ ¬c.hasKey d.key.1 d.key.2 := by
    decide +kernel
  obtain ⟨frame, parts⟩ := validate_annotates distinct s .unknown
  rw [parts_eq f, parts_eq] at parts
  cases parts with
  | cons root _ =>
    have merged : ∃ d ∈ g.columns, d.foldedKey = ("orders", "user_id") := by decide +kernel
    obtain ⟨d, hd, key⟩ := merged
    refine ⟨distinct, by decide +kernel, by decide +kernel, frame, root.wildcards, d, hd, key,
      (root.roles d hd .selected).2 ?_, (root.roles d hd .filtered).2 ?_⟩
    · rw [key]
      decide +kernel
    · rw [key]
      decide +kernel

end Footprint

end SqlFootprint
