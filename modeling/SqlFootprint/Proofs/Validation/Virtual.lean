import SqlFootprint.Proofs.Validation.Agreement

/-!
# Virtual tables

A name in `WITH` and the alias of a derived table are entered as a table of that name in `FROM`
would be, and nothing in a footprint tells them from one. So a schema is asked for them as for any
other table: it leaves their columns unjudged as long as it has no table of that name itself.
-/

namespace SqlFootprint

/-! ## Merged columns -/

namespace ColumnUse

variable {key : String × String} {p : Option Bool × Option String}

/-- Columns that stand under a key have a given standing. -/
def Stand (key : String × String) (p : Option Bool × Option String) (cs : List ColumnUse) : Prop :=
  ∀ c ∈ cs, c.foldedKey = key → c.standing = p

theorem Stand.record {c : ColumnUse} {cs : List ColumnUse} (hcs : Stand key p cs)
    (hc : c.foldedKey = key → c.standing = p) : Stand key p (c.record cs) := by
  intro d hd hk
  obtain rfl | hd | ⟨e, he, same, rfl⟩ := mem_record hd
  · exact hc hk
  · exact hcs d hd hk
  · -- Both of the merged columns stand under the key.
    obtain h | h := standing_merge e c
    · exact h.trans (hcs e he hk)
    · exact h.trans (hc (same.symm.trans hk))

/-- Merging columns leaves the standing that they agree on. -/
theorem Stand.recordAll {cs new : List ColumnUse} (hcs : Stand key p cs)
    (hnew : Stand key p new) : Stand key p (recordAll cs new) := by
  induction new generalizing cs with
  | nil => exact hcs
  | cons c new ih =>
    obtain ⟨hc, hnew⟩ := List.forall_mem_cons.1 hnew
    exact ih (hcs.record hc) hnew

/-- What is found under a key has the standing of all that stands under it. -/
theorem Stand.exists_find? {cs : List ColumnUse} {table name : String}
    (h : Stand (Text.foldAscii table, Text.foldAscii name) p cs)
    (there : (Text.foldAscii table, Text.foldAscii name) ∈ cs.map foldedKey) :
    ∃ d, cs.find? (·.hasKey table name) = some d ∧ d.standing = p := by
  cases hd : cs.find? (·.hasKey table name) with
  | none =>
    obtain ⟨e, he, same⟩ := List.mem_map.1 there
    exact absurd (hasKey_eq_true_iff.2 same) (List.find?_eq_none.1 hd e he)
  | some d =>
    have fits : d.hasKey table name := by simpa using List.find?_some hd
    exact ⟨d, rfl, h d (List.mem_of_find?_eq_some hd) (hasKey_eq_true_iff.1 fits)⟩

end ColumnUse

/-! ## Columns of a given table -/

namespace Schema

variable (s : Schema) (policy : AmbiguityPolicy) {tables : List TableUse} {c d : ColumnUse}

/-- A table that a schema does not know leaves its columns open; one that it knows does not. -/
theorem standing_markIn (table : String) (c : ColumnUse) :
    (s.markIn table c).standing =
      if s.hasTable table then
        (some (s.columnType? table c.name).isSome, s.columnType? table c.name)
      else (none, none) := by
  unfold markIn
  split
  · cases s.columnType? table c.name with
    | none => rfl
    | some type => rfl
  · rfl

/-- How a table marks a column depends on the names of both, up to case. -/
theorem standing_markIn_congr {table table' : String} (ht : Text.lower table = Text.lower table')
    (hc : Text.lower c.name = Text.lower d.name) :
    (s.markIn table c).standing = (s.markIn table' d).standing := by
  rw [s.markIn_congr ht, standing_markIn, standing_markIn, columnType?_congr rfl hc]

/-- A column that is adopted is marked as its new table marks it. -/
theorem standing_of_adopted {owner type : String} (h : s.judge tables d = .adopted owner type) :
    ((s.judge tables d).mark policy d).standing = (s.markIn owner d).standing := by
  rw [← s.mark_judgeQualified policy, judgeQualified_of_columnType? (of_judge_eq_adopted h).2.2, h]
  rfl

/-- All that comes under the key of a column with a table is marked as this table marks it. -/
theorem stand_judged {columns : List ColumnUse} (single : (columns.map ColumnUse.foldedKey).Nodup)
    (hc : c ∈ columns) (hw : ¬c.isWildcard) {table : String} (ht : c.table = some table)
    (itself : TableUse.NamesItself tables table) :
    ColumnUse.Stand c.foldedKey (s.markIn table c).standing
      (columns.map (s.judged policy tables)) := by
  refine List.forall_mem_map.2 fun d hd same ↦ ?_
  by_cases moves : ¬d.isWildcard ∧ (s.judge tables d).isAdoption
  · obtain ⟨hdw, adoption⟩ := moves
    obtain ⟨owner, type, hv⟩ := Verdict.exists_eq_adopted adoption
    rw [judged, if_neg hdw] at same ⊢
    rw [s.standing_of_adopted policy hv]
    -- The key of an adopted column is made of its new table.
    rw [hv] at same
    obtain ⟨sameTable, sameName⟩ := Prod.mk.inj same
    rw [ColumnUse.key, ColumnUse.key, ht] at sameTable
    exact s.standing_markIn_congr (Text.lower_eq_of_sameName (Text.sameName_iff.2 sameTable))
      (Text.lower_eq_of_sameName (Text.sameName_iff.2 sameName))
  · rw [s.foldedKey_judged policy fun hdw adoption ↦ moves ⟨hdw, adoption⟩] at same
    cases List.inj_on_of_nodup_map single hd hc same
    rw [s.judged_eq_markIn policy tables hw ht]
    exact s.standing_markIn_congr (TableUse.namesItself_iff.1 itself) rfl

/-- A column with a table keeps its key, since it is not adopted. -/
theorem foldedKey_judged_of_table {table : String} (ht : c.table = some table) :
    (s.judged policy tables c).foldedKey = c.foldedKey := by
  refine s.foldedKey_judged policy fun _ adoption ↦ ?_
  obtain ⟨owner, type, hv⟩ := Verdict.exists_eq_adopted adoption
  rw [(of_judge_eq_adopted hv).1] at ht
  cases ht

/-- In an annotated footprint, a column with a table is found as this table marks it. -/
theorem exists_column?_annotate {f : Footprint} (single : (f.columns.map ColumnUse.foldedKey).Nodup)
    (hc : c ∈ f.columns) (hw : ¬c.isWildcard) {table : String} (ht : c.table = some table)
    (itself : TableUse.NamesItself f.tables table) :
    ∃ d, (s.annotate policy f).1.column? (some table) c.name = some d ∧
      d.standing = (s.markIn table c).standing := by
  have key : c.foldedKey = (Text.foldAscii table, Text.foldAscii c.name) := by
    rw [ColumnUse.foldedKey, ColumnUse.key, ht]
    rfl
  have stand := s.stand_judged policy single hc hw ht itself
  have there : c.foldedKey ∈ (f.columns.map (s.judged policy f.tables)).map ColumnUse.foldedKey :=
    List.mem_map.2 ⟨_, List.mem_map_of_mem hc, s.foldedKey_judged_of_table policy ht⟩
  rw [key] at stand there
  rw [s.annotate_footprint, Footprint.column?, Option.getD_some]
  simp only [judgeOwn, judgeColumns_columns]
  split
  · exact ColumnUse.Stand.exists_find? (.recordAll (List.forall_mem_nil _) stand)
      (ColumnUse.mem_foldedKey_recordAll.2 (.inr there))
  · exact stand.exists_find? there

end Schema

/-! ## Virtual tables -/

namespace Sql

/-- A table in `FROM` by its name alone. -/
def TableFactor.plain (name : Ident) : TableFactor :=
  .table [name] [] none []

theorem TableFactor.walk_plain (name : Ident) (r : Reach) (s : Scope) :
    (plain name).walk r s = (some name.text, s.register ⟨name.text, none, none⟩) := by
  rw [plain, walk]
  rfl

/-- A name in `WITH` is entered after its query, as a table of that name would be. -/
theorem Cte.walk_eq_plain (c : Cte) (r : Reach) (s : Scope) :
    c.walk r s = ((TableFactor.plain c.aliasName.name).walk r
      (Walk.nested .cte c.query.render c.query.walk .addCte r s)).2 := by
  cases c
  rw [TableFactor.walk_plain, Cte.walk]
  rfl

/-- So is the alias of a derived table. -/
theorem TableFactor.walk_derived_eq_plain (lateral : Bool) (q : Query) (a : TableAlias) (r : Reach)
    (s : Scope) :
    (derived lateral q (some a)).walk r s =
      (plain a.name).walk r ((derived lateral q none).walk r s).2 := by
  rw [walk_plain, walk, walk]

end Sql

namespace Footprint

/-- Virtual tables are entered as tables of their names are, and a column with a table is judged by
that name alone: it is left open exactly if the schema has no table of the name. -/
theorem virtual_judged_by_name :
    (∀ (c : Sql.Cte) (r : Reach) (scope : Scope),
      c.walk r scope = ((Sql.TableFactor.plain c.aliasName.name).walk r
        (Walk.nested .cte c.query.render c.query.walk .addCte r scope)).2) ∧
    (∀ (lateral : Bool) (q : Sql.Query) (a : Sql.TableAlias) (r : Reach) (scope : Scope),
      (Sql.TableFactor.derived lateral q (some a)).walk r scope =
        (Sql.TableFactor.plain a.name).walk r
          ((Sql.TableFactor.derived lateral q none).walk r scope).2) ∧
    ∀ (limit : Nat) (statement : Sql.Statement) (text : String) (s : Schema)
      (policy : AmbiguityPolicy), ∀ f ∈ (ofStatement limit statement text).parts,
      (s.annotate policy f).1 ∈ (s.validate policy (ofStatement limit statement text)).1.parts ∧
      ∀ c ∈ f.columns, ¬c.isWildcard → ∀ table, c.table = some table →
        TableUse.NamesItself f.tables table →
        ∃ d, (s.annotate policy f).1.column? (some table) c.name = some d ∧
          (d.valid = none ↔ ¬s.hasTable table) ∧
          (s.hasTable table → d.valid = some (s.columnType? table c.name).isSome ∧
            d.type = s.columnType? table c.name) := by
  refine ⟨Sql.Cte.walk_eq_plain, Sql.TableFactor.walk_derived_eq_plain, ?_⟩
  intro limit statement text s policy f hf
  constructor
  · rw [Schema.validate, s.parts_annotate]
    exact List.mem_map_of_mem hf
  · intro c hc hw table ht itself
    have single := (isSound_ofStatement limit statement text f hf).columns
    obtain ⟨d, found, standing⟩ := s.exists_column?_annotate policy single hc hw ht itself
    refine ⟨d, found, ?_⟩
    rw [s.standing_markIn] at standing
    by_cases known : s.hasTable table
    · rw [if_pos known] at standing
      obtain ⟨valid, type⟩ := Prod.mk.inj standing
      exact ⟨by simp [valid, known], fun _ ↦ ⟨valid, type⟩⟩
    · rw [if_neg known] at standing
      have valid := (Prod.mk.inj standing).1
      exact ⟨by simp [valid, known], fun h ↦ absurd h known⟩

/-- In `WITH v AS (SELECT a FROM t) SELECT v.a FROM v` the column of `v` is left open by a schema
that has `t` only, and is judged by one that has a table `v` as well. -/
theorem virtual_judged_by_name_sample :
    let column (path : List String) (name : String) : Sql.SelectItem :=
      .expr (.column (path.map (⟨·, none⟩)) ⟨name, none⟩)
    let cte : Sql.Cte := ⟨⟨⟨"v", none⟩, []⟩, "",
      .plain [column [] "a"] [.named [⟨"t", none⟩]], ""⟩
    let query : Sql.Query :=
      { Sql.Query.plain [column ["v"] "a"] [.named [⟨"v", none⟩]] with ctes := [cte] }
    let f := ofStatement 9 (.query query) ""
    let c : ColumnUse := ⟨"a", "v", none, .ofRole .selected, none, none⟩
    let tables := Schema.empty.insert ⟨"t", none, [⟨"a", "INT", true, false, false⟩]⟩
    let more := tables.insert ⟨"v", none, [⟨"b", "INT", true, false, false⟩]⟩
    c ∈ f.columns ∧ TableUse.NamesItself f.tables "v" ∧
      (∃ d, (tables.annotate .unknown f).1.column? (some "v") "a" = some d ∧ d.valid = none) ∧
      ∃ d, (more.annotate .unknown f).1.column? (some "v") "a" = some d ∧ d.valid = some false := by
  intro column cte query f c tables more
  have listed : c ∈ f.columns := by decide +kernel
  have itself : TableUse.NamesItself f.tables "v" := by decide +kernel
  have absent : ¬tables.hasTable "v" := by decide +kernel
  have present : more.hasTable "v" := by decide +kernel
  have undefined : more.columnType? "v" "a" = none := by decide +kernel
  obtain ⟨d, hd, openly, -⟩ := (virtual_judged_by_name.2.2 9 (.query query) "" tables .unknown f
    f.mem_parts_self).2 c listed (by decide) "v" rfl itself
  obtain ⟨e, he, -, judged⟩ := (virtual_judged_by_name.2.2 9 (.query query) "" more .unknown f
    f.mem_parts_self).2 c listed (by decide) "v" rfl itself
  refine ⟨listed, itself, ⟨d, hd, openly.2 absent⟩, e, he, ?_⟩
  rw [(judged present).1, undefined]
  rfl

/-- A schema with a table `v` marks the column of `WITH v AS (SELECT a FROM t) SELECT v.a FROM v`.
One without marks that of `WITH v AS (SELECT a FROM t) SELECT w.a FROM v w, t v`. -/
theorem not_all_virtual_unjudged :
    let column (path : List String) (name : String) : Sql.SelectItem :=
      .expr (.column (path.map (⟨·, none⟩)) ⟨name, none⟩)
    let cte : Sql.Cte := ⟨⟨⟨"v", none⟩, []⟩, "",
      .plain [column [] "a"] [.named [⟨"t", none⟩]], ""⟩
    let query (item : Sql.SelectItem) (sources : List Sql.TableWithJoins) : Sql.Query :=
      { Sql.Query.plain [item] sources with ctes := [cte] }
    let f := ofStatement 9 (.query (query (column ["v"] "a") [.named [⟨"v", none⟩]])) ""
    let g := ofStatement 9 (.query (query (column ["w"] "a")
      [.named [⟨"v", none⟩] "w", .named [⟨"t", none⟩] "v"])) ""
    let tables := Schema.empty.insert ⟨"t", none, [⟨"a", "INT", true, false, false⟩]⟩
    let more := tables.insert ⟨"v", none, [⟨"b", "INT", true, false, false⟩]⟩
    ((more.validate .assumeValid f).1.column? (some "v") "a").map (·.valid) = some (some false) ∧
      ((tables.validate .assumeValid g).1.column? (some "v") "a").map (·.valid) =
        some (some true) := by
  decide +kernel

end Footprint

end SqlFootprint
