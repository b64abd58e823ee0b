import SqlFootprint.Proofs.Extraction.Qualification
import SqlFootprint.Proofs.Validation.Stability

/-!
# Verdicts with and without qualifiers

A column with a qualifier is looked up in the table that is meant, and one without in all tables
that are listed. Where only one table is listed and the schema knows it, both are the same: the
columns of a query are ruled alike however its references are written. Where the schema does not know
the table they are not. A column of the table is left open then, but one that nobody defines is
invalid.
-/

namespace SqlFootprint

theorem Text.eq_empty_of_foldAscii_eq_empty {s : String} (h : foldAscii s = "") : s = "" := by
  rw [foldAscii, ← String.toList_inj, String.toList_map] at h
  exact String.toList_inj.1 (List.map_eq_nil_iff.1 h)

namespace ColumnUse

/-- What a schema says of a column. The name is told up to the case of ASCII letters. -/
def ruling (c : ColumnUse) : String × Option Bool × Option String :=
  (Text.foldAscii c.name, c.standing)

theorem ruling_fold (c : ColumnUse) : c.fold.ruling = c.ruling :=
  Prod.ext (Text.foldAscii_foldAscii c.name) rfl

/-- Recording columns keeps what is said of them, if that is the same for all that are under one key
and does not depend on where they are used. -/
theorem mem_map_dedup {α : Type} {said : ColumnUse → α} {new : List ColumnUse}
    (used : ∀ c aliasName roles, said (c.used aliasName roles) = said c)
    (alike : ∀ c ∈ new, ∀ d ∈ new, c.foldedKey = d.foldedKey → c.standing = d.standing)
    (keyed : ∀ c ∈ new, ∀ d ∈ new, c.foldedKey = d.foldedKey → said c = said d) {a : α} :
    a ∈ (recordAll [] new).map said ↔ a ∈ new.map said := by
  constructor
  · intro h
    obtain ⟨d, hd, rfl⟩ := List.mem_map.1 h
    obtain ⟨c, hc, -, same⟩ := exists_used_of_mem_dedup alike hd
    exact List.mem_map.2 ⟨c, hc, ((congrArg said same).trans (used c _ _)).symm⟩
  · intro h
    obtain ⟨c, hc, rfl⟩ := List.mem_map.1 h
    obtain ⟨d, hd, key⟩ : ∃ d ∈ recordAll [] new, d.foldedKey = c.foldedKey :=
      List.mem_map.1 (mem_foldedKey_recordAll.2 (.inr (List.mem_map_of_mem hc)))
    obtain ⟨e, he, key', same⟩ := exists_used_of_mem_dedup alike hd
    have first : said d = said e := (congrArg said same).trans (used e _ _)
    exact List.mem_map.2 ⟨d, hd, first.trans (keyed e he c hc (key'.trans key))⟩

/-- Once columns are settled in a table their keys are still the same, if the empty name is used for
that table only. -/
theorem foldAscii_table_settle {table : String} {c : ColumnUse}
    (named : (c.settle table).table = some "" → table = "") :
    Text.foldAscii (c.table.getD table) =
      if Text.foldAscii (c.table.getD "") = "" then Text.foldAscii table
      else Text.foldAscii (c.table.getD "") := by
  unfold settle at named
  cases ht : c.table with
  | none => rw [Option.getD_none, Option.getD_none, if_pos Text.foldAscii_empty]
  | some own =>
    rw [Option.getD_some, Option.getD_some]
    split
    · have empty : own = "" := Text.eq_empty_of_foldAscii_eq_empty ‹_›
      rw [empty, named (by rw [ht, empty]; rfl)]
    · rfl

end ColumnUse

namespace Schema

variable {s : Schema} {policy : AmbiguityPolicy} {t : TableUse} {c d : ColumnUse}
  {tables : List TableUse}

/-! ## A single column -/

/-- What is said of a column depends on its names up to case. -/
theorem ruling_judged_congr (name : Text.foldAscii c.name = Text.foldAscii d.name)
    (table : c.table.map Text.foldAscii = d.table.map Text.foldAscii)
    (standing : c.standing = d.standing) :
    (s.judged policy tables c).ruling = (s.judged policy tables d).ruling := by
  have same : d.fold = c.fold.used d.fold.aliasName d.fold.roles :=
    ColumnUse.eq_used name.symm table.symm standing.symm
  rw [← (s.judged policy tables c).ruling_fold, ← (s.judged policy tables d).ruling_fold,
    ← s.fold_judged, ← s.fold_judged policy tables d, same, judged_used]
  rfl

/-- The only table, if a schema knows it, marks a column without a table as one of its own. -/
theorem standing_mark_judgeBare {table : String} (known : s.hasTable table) (c : ColumnUse) :
    ((s.judgeBare [table] c.name).mark policy c).standing = (s.markIn table c).standing := by
  rw [standing_markIn, if_pos known, judgeBare, owners, List.filterMap_cons, List.filterMap_nil]
  cases s.columnType? table c.name with
  | none => rfl
  | some type => rfl

/-- A schema that knows the only table says the same of a column with that table as without. -/
theorem ruling_judged_settle (known : s.hasTable t.name) (c : ColumnUse) :
    (s.judged policy [t] (c.settle t.name)).ruling = (s.judged policy [t] c).ruling := by
  cases ht : c.table with
  | some own =>
    have same : c.settle t.name = c := by
      rw [ColumnUse.settle, ht, Option.getD_some, ← ht]
    rw [same]
  | none =>
    have name : (s.judged policy [t] (c.settle t.name)).name = (s.judged policy [t] c).name := by
      rw [name_judged, name_judged]
      rfl
    refine Prod.ext (congrArg Text.foldAscii name) ?_
    change (s.judged policy [t] (c.settle t.name)).standing = (s.judged policy [t] c).standing
    have wild : (c.settle t.name).isWildcard = c.isWildcard := rfl
    by_cases hw : c.isWildcard
    · rw [judged, judged, if_pos hw, if_pos (wild.trans hw)]
      rfl
    · have settled : (c.settle t.name).table = some t.name := by
        rw [ColumnUse.settle, ht, Option.getD_none]
      have itself : TableUse.NamesItself [t] t.name := by
        intro u hu
        rw [List.mem_singleton.1 (List.mem_of_find?_eq_some hu)]
      have bare : s.judge [t] c = s.judgeBare [t.name] c.name := by
        rw [judge, ht]
        rfl
      rw [s.judged_eq_markIn policy [t] (by rwa [wild]) settled, judged, if_neg hw, bare,
        standing_mark_judgeBare known]
      exact s.standing_markIn_congr (TableUse.namesItself_iff.1 itself) rfl

theorem columnType?_of_not_hasTable {table : String} (unknown : ¬s.hasTable table)
    (column : String) : s.columnType? table column = none := by
  rw [hasTable, Option.not_isSome_iff_eq_none] at unknown
  rw [columnType?, unknown, Option.bind_none]

/-- If a schema does not know the only table, a column without a table is unknown, -/
theorem judge_of_not_hasTable (unknown : ¬s.hasTable t.name) (bare : c.table = none) :
    s.judge [t] c = .unknownColumn c.name none := by
  have none : s.owners (referencedNames [t]) c.name = [] := by
    refine List.filterMap_eq_nil_iff.2 fun name listed ↦ ?_
    rw [List.mem_singleton.1 listed, columnType?_of_not_hasTable unknown, Option.map_none]
  rw [judge, bare]
  exact show s.judgeBare _ _ = _ by rw [judgeBare, none]

/-- and one of the table is not judged. -/
theorem judge_of_not_hasTable_of_sameName (unknown : ¬s.hasTable t.name) {name : String}
    (table : c.table = some name) (same : Text.sameName name t.name) :
    s.judge [t] c = .unjudged := by
  have named : qualifiedTable [t] name = t.name := by
    have fits : t.answersTo name := by
      rw [TableUse.answersTo, Text.lower_eq_of_sameName same, beq_self_eq_true, Bool.true_or]
    rw [qualifiedTable_eq, List.reverse_singleton, List.find?_cons_of_pos fits]
    rfl
  rw [judge, table]
  exact show s.judgeQualified _ _ = _ by rw [judgeQualified, named, if_neg unknown]

end Schema

/-! ## Queries over one table -/

namespace Footprint.IsSingle

variable {s : Schema} {policy : AmbiguityPolicy} {t : TableUse} {f : Footprint}
  {columns : List ColumnUse} (h : f.IsSingle t columns)

include h

theorem clear : f.Clear where
  single := by
    rw [h.merged]
    exact ColumnUse.nodup_recordAll List.nodup_nil
  unhidden := by
    rcases h.tables with tables | ⟨tables, -⟩
    · rw [tables]
      intro u hu v hv _ _ _
      rw [List.mem_singleton.1 hu, List.mem_singleton.1 hv]
    · rw [tables]
      exact nofun

theorem unjudged : ∀ c ∈ f.columns, c.valid = none := by
  rw [h.merged]
  have fresh := ColumnUse.forall_standing_recordAll (P := (· = (none, none)))
    (List.forall_mem_nil _) h.fresh
  exact fun c hc ↦ congrArg Prod.fst (fresh c hc)

theorem map_judged :
    f.columns.map (s.judged policy f.tables) = f.columns.map (s.judged policy [t]) := by
  rcases h.tables with tables | ⟨-, none⟩
  · rw [tables]
  · rw [h.merged, none]
    rfl

/-- The schema says one thing only under each key. -/
theorem ruling_judged_congr (known : s.hasTable t.name) :
    ∀ c ∈ columns, ∀ d ∈ columns, c.foldedKey = d.foldedKey →
      (s.judged policy [t] c).ruling = (s.judged policy [t] d).ruling := by
  intro c hc d hd same
  obtain ⟨table, name⟩ := Prod.mk.inj same
  have standing : c.standing = d.standing := (h.fresh c hc).trans (h.fresh d hd).symm
  by_cases wild : c.isWildcard
  · have wild' : d.isWildcard := by rwa [← ColumnUse.isWildcard_congr name]
    rw [Schema.judged, Schema.judged, if_pos wild, if_pos wild']
    exact Prod.ext name standing
  · have wild' : ¬d.isWildcard := by rwa [← ColumnUse.isWildcard_congr name]
    have named := h.named _ (List.mem_map_of_mem hc) wild
    have named' := h.named _ (List.mem_map_of_mem hd) wild'
    rw [← Schema.ruling_judged_settle known c, ← Schema.ruling_judged_settle known d]
    refine Schema.ruling_judged_congr name (congrArg some ?_) standing
    rw [ColumnUse.key, ColumnUse.key] at table
    rw [ColumnUse.foldAscii_table_settle named, ColumnUse.foldAscii_table_settle named', table]

/-- If the schema knows the table, it says of a query what it says of each of its columns once this
is settled. -/
theorem mem_ruling_validate (known : s.hasTable t.name) {r : String × Option Bool × Option String} :
    r ∈ (s.validate policy f).1.columns.map ColumnUse.ruling ↔
      r ∈ (columns.map (·.settle t.name)).map fun c ↦ (s.judged policy [t] c).ruling := by
  have judged : r ∈ (s.validate policy f).1.columns.map ColumnUse.ruling ↔
      r ∈ (f.columns.map (s.judged policy f.tables)).map ColumnUse.ruling := by
    rw [Schema.validate, s.annotate_footprint, Schema.judgeOwn]
    simp only [Schema.judgeColumns_columns]
    split
    · have alike : ∀ c ∈ f.columns.map (s.judged policy f.tables),
          ∀ d ∈ f.columns.map (s.judged policy f.tables),
            c.foldedKey = d.foldedKey → c.standing = d.standing :=
        List.forall_mem_map.2 fun c hc ↦ List.forall_mem_map.2 fun d hd ↦
          Schema.standing_judged_congr h.clear hc hd
      exact ColumnUse.mem_map_dedup (fun _ _ _ ↦ rfl) alike fun c hc d hd same ↦
        Prod.ext (congrArg Prod.snd same) (alike c hc d hd same)
    · rfl
  have settled : ((columns.map (·.settle t.name)).map fun c ↦ (s.judged policy [t] c).ruling) =
      columns.map fun c ↦ (s.judged policy [t] c).ruling := by
    rw [List.map_map]
    exact List.map_congr_left fun c _ ↦ Schema.ruling_judged_settle known c
  rw [judged, h.map_judged, settled, List.map_map, h.merged]
  refine ColumnUse.mem_map_dedup (fun c aliasName roles ↦ ?_) (fun c hc d hd _ ↦ ?_)
    (h.ruling_judged_congr known)
  · rw [Schema.judged_used]
    rfl
  · exact (h.fresh c hc).trans (h.fresh d hd).symm

/-- A summary is clean if no column has been found invalid. -/
theorem isClean_iff :
    (s.validate policy f).2.isClean ↔
      ∀ c ∈ (s.validate policy f).1.columns, c.valid ≠ some false := by
  have counted : (s.validate policy f).2.invalid =
      (s.validate policy f).1.columns.countP ColumnUse.isInvalid := by
    have own : (s.annotate policy f).2 = s.ownVerdicts f := by
      rw [s.annotate_verdicts, Footprint.children, h.ctes, h.subqueries]
      rfl
    rw [Schema.validate, ValidationSummary.invalid_ofVerdicts, own, s.annotate_footprint]
    exact (Schema.countP_judgeColumns h.clear.unhidden h.unjudged h.clear.single).symm
  rw [ValidationSummary.isClean, beq_iff_eq, counted, List.countP_eq_zero]
  refine forall₂_congr fun c _ ↦ ?_
  rw [ColumnUse.isInvalid, beq_iff_eq]

/-- Whether a summary is clean is told by what is said of the columns. -/
theorem isClean_congr {t' : TableUse} {g : Footprint} {columns' : List ColumnUse}
    (k : g.IsSingle t' columns')
    (same : ∀ r, r ∈ (s.validate policy f).1.columns.map ColumnUse.ruling ↔
      r ∈ (s.validate policy g).1.columns.map ColumnUse.ruling) :
    (s.validate policy f).2.isClean = (s.validate policy g).2.isClean := by
  have invalid (columns : List ColumnUse) : (∀ c ∈ columns, c.valid ≠ some false) ↔
      ∀ r ∈ columns.map ColumnUse.ruling, r.2.1 ≠ some false := by
    rw [List.forall_mem_map]
    rfl
  rw [Bool.eq_iff_iff, h.isClean_iff, k.isClean_iff, invalid, invalid]
  exact forall_congr' fun r ↦ imp_congr_left (same r)

/-- If the schema does not know the table, it leaves open what is said to be a column of it, and
finds invalid what is not said to be of any table. -/
theorem standing_of_not_hasTable (unknown : ¬s.hasTable t.name) :
    ∀ c ∈ (s.validate policy f).1.columns, ¬c.isWildcard →
      (c.table = none → c.valid = some false ∧ c.type = none) ∧
      ∀ name, c.table = some name → Text.sameName name t.name → c.valid = none ∧ c.type = none := by
  intro d hd hw
  rw [Schema.validate, s.annotate_footprint, Schema.judgeOwn] at hd
  rcases h.tables with tables | ⟨-, none⟩
  · have stay (c : ColumnUse) : ¬(s.judge [t] c).isAdoption := by
      intro adoption
      obtain ⟨owner, type, hv⟩ := Verdict.exists_eq_adopted adoption
      obtain ⟨-, ⟨u, listed, named⟩, defined⟩ := Schema.of_judge_eq_adopted hv
      rw [← named, List.mem_singleton.1 listed, Schema.columnType?_of_not_hasTable unknown]
        at defined
      cases defined
    have still :
        ¬((f.columns.filter (!·.isWildcard)).map (s.judge [t])).any Verdict.isAdoption := by
      rw [List.any_map, List.any_eq_true]
      rintro ⟨c, -, adoption⟩
      exact stay c adoption
    simp only [tables, Schema.judgeColumns_columns, if_neg still] at hd
    obtain ⟨c, -, rfl⟩ := List.mem_map.1 hd
    have other : ¬c.isWildcard := by rwa [ColumnUse.isWildcard, Schema.name_judged] at hw
    rw [Schema.judged, if_neg other, Verdict.table_mark (stay c)]
    refine ⟨fun bare ↦ ?_, fun name table same ↦ ?_⟩
    · rw [Schema.judge_of_not_hasTable unknown bare]
      exact ⟨rfl, rfl⟩
    · rw [Schema.judge_of_not_hasTable_of_sameName unknown table same]
      exact ⟨rfl, rfl⟩
  · have empty : f.columns = [] := by rw [h.merged, none]; rfl
    rw [empty] at hd
    cases hd

end Footprint.IsSingle

namespace Footprint

/-- A query over one table and its qualified form are ruled alike by a schema that knows the
table. -/
theorem mem_ruling_validate_rewrite {t : TableUse} {qualifier : Sql.Ident}
    (means : t.isMeantBy qualifier.text) {q : Sql.Query} (reads : q.IsOver t)
    (plain : ∀ s ∈ q.sightings, s.isPlain t) {s : Schema} (known : s.hasTable t.name)
    (policy : AmbiguityPolicy) (limit : Nat) (text text' : String)
    {r : String × Option Bool × Option String} :
    r ∈ (s.validate policy (ofStatement limit (.query q) text)).1.columns.map ColumnUse.ruling ↔
      r ∈ (s.validate policy (ofStatement limit
        (.query (q.rewrite (Sql.qualification qualifier))) text')).1.columns.map
          ColumnUse.ruling := by
  obtain ⟨cs, ds, single, single', same⟩ := q.exists_isSingle means reads plain limit text text'
  rw [single.mem_ruling_validate known, single'.mem_ruling_validate known, same]

/-- Take two queries over a single table that differ in no more than where its name, or its alias, is
written before a column. If the schema knows the table, the same is said of the same columns, and
one is clean if the other is. If it does not, the columns that are said to be of the table are left
open, and those that are not said to be of any table are invalid. -/
theorem ruled_alike_of_qualification {t : TableUse} {qualifier : Sql.Ident}
    (means : t.isMeantBy qualifier.text) {q q' : Sql.Query} (reads : q.IsOver t)
    (plain : ∀ s ∈ q.sightings, s.isPlain t)
    (same : q.rewrite (Sql.qualification qualifier) = q'.rewrite (Sql.qualification qualifier))
    (s : Schema) (policy : AmbiguityPolicy) (limit : Nat) (text text' : String) :
    let (f, summary) := s.validate policy (ofStatement limit (.query q) text)
    let (g, summary') := s.validate policy (ofStatement limit (.query q') text')
    (s.hasTable t.name →
      (∀ r, r ∈ f.columns.map ColumnUse.ruling ↔ r ∈ g.columns.map ColumnUse.ruling) ∧
        summary.isClean = summary'.isClean) ∧
    (¬s.hasTable t.name → ∀ c ∈ f.columns ++ g.columns, ¬c.isWildcard →
      (c.table = none → c.valid = some false ∧ c.type = none) ∧
      ∀ name, c.table = some name → Text.sameName name t.name → c.valid = none ∧ c.type = none) := by
  have reads' : q'.IsOver t := by
    rw [← Sql.Query.isOver_rewrite, ← same]
    exact Sql.Query.isOver_rewrite.2 reads
  have plain' : ∀ s ∈ q'.sightings, s.isPlain t := by
    intro s hs
    have keeps := Sql.keeps_qualification qualifier
    have met : q.sightings.map (·.qualify qualifier.text) =
        q'.sightings.map (·.qualify qualifier.text) := by
      rw [keeps.sightingsOfQuery q, keeps.sightingsOfQuery q', same]
    obtain ⟨s', hs', qualified⟩ := List.mem_map.1 (met ▸ List.mem_map_of_mem hs)
    rw [← s.isPlain_qualify means, ← qualified, s'.isPlain_qualify means]
    exact plain s' hs'
  obtain ⟨cs, -, single, -, -⟩ := q.exists_isSingle means reads plain limit text text
  obtain ⟨ds, -, single', -, -⟩ := q'.exists_isSingle means reads' plain' limit text' text'
  refine ⟨fun known ↦ ?_, fun unknown ↦ ?_⟩
  · have ruled : ∀ r, r ∈ (s.validate policy (ofStatement limit (.query q) text)).1.columns.map
        ColumnUse.ruling ↔ r ∈ (s.validate policy
          (ofStatement limit (.query q') text')).1.columns.map ColumnUse.ruling := by
      intro r
      rw [mem_ruling_validate_rewrite means reads plain known policy limit text text,
        mem_ruling_validate_rewrite means reads' plain' known policy limit text' text, same]
    exact ⟨ruled, single.isClean_congr single' ruled⟩
  · exact List.forall_mem_append.2
      ⟨single.standing_of_not_hasTable unknown, single'.standing_of_not_hasTable unknown⟩

/-- `SELECT id, nope FROM orders o WHERE o.id > 3` and
`SELECT o.id, nope FROM orders o WHERE id > 3` are ruled alike where the schema has the table. Where
it has not, the second column is invalid in both. -/
theorem ruled_alike_of_qualification_sample :
    let column (path : List String) (name : String) : Sql.Expr :=
      .column (path.map (⟨·, none⟩)) ⟨name, none⟩
    let query (first second : Sql.Expr) : Sql.Query :=
      .plain [.expr first, .expr (column [] "nope")] [.named [⟨"orders", none⟩] "o"]
        (some (.binary second (.compare .gt) (.constant "3")))
    let q := query (column [] "id") (column ["o"] "id")
    let q' := query (column ["o"] "id") (column [] "id")
    let s := Schema.empty.insert ⟨"orders", none, [{ name := "id", type := "INT" }]⟩
    let f (s : Schema) (q : Sql.Query) := (s.validate .unknown (ofStatement 4 (.query q) "")).1
    (f s q).columns.map ColumnUse.ruling =
        [("id", some true, some "INT"), ("nope", some false, none)] ∧
      (∀ r, r ∈ (f s q).columns.map ColumnUse.ruling ↔ r ∈ (f s q').columns.map ColumnUse.ruling) ∧
      ∃ c ∈ (f .empty q).columns, c.name = "nope" ∧ c.valid = some false := by
  intro column query q q' s f
  let t : TableUse := { name := "orders", aliasName := "o" }
  let qualifier : Sql.Ident := ⟨"o", none⟩
  have means : t.isMeantBy qualifier.text := by decide +kernel
  have reads : q.IsOver t := ⟨_, _, _, _, rfl, rfl⟩
  have plain : ∀ s ∈ q.sightings, s.isPlain t := by decide +kernel
  have same : q.rewrite (Sql.qualification qualifier) = q'.rewrite (Sql.qualification qualifier) :=
    rfl
  have alike := ruled_alike_of_qualification means reads plain same s .unknown 4 "" ""
  have open_ := ruled_alike_of_qualification means reads plain same .empty .unknown 4 "" ""
  have bare : ∃ c ∈ (f .empty q).columns, c.name = "nope" ∧ ¬c.isWildcard ∧ c.table = none := by
    decide +kernel
  obtain ⟨c, hc, name, other, table⟩ := bare
  refine ⟨by decide +kernel, (alike.1 (by decide +kernel)).1, c, hc, name, ?_⟩
  exact ((open_.2 (by decide +kernel) c (List.mem_append_left _ hc) other).1 table).1

/-- Where the schema does not know `t`, only the second of `SELECT a FROM t` and `SELECT t.a FROM t`
is clean. Where it knows `t` but not `id`, `SELECT Id, t.id FROM t` names two invalid columns, and
`SELECT Id, id FROM t` one. Where it knows `c`, `SELECT "".c, c FROM t` has one column, which belongs
to no table, and `SELECT "".c, t.c FROM t` has two. -/
theorem not_ruled_alike_of_qualification :
    let column (path : List String) (name : String) : Sql.SelectItem :=
      .expr (.column (path.map (⟨·, none⟩)) ⟨name, none⟩)
    let query (items : List Sql.SelectItem) : Sql.Query := .plain items [.named [⟨"t", none⟩]]
    let s (table column : String) :=
      Schema.empty.insert ⟨table, none, [{ name := column, type := "INT" }]⟩
    let told (s : Schema) (items : List Sql.SelectItem) :=
      let (f, summary) := s.validate .assumeValid (ofStatement 4 (.query (query items)) "")
      (f.columns.map fun c ↦ (c.name, c.valid, c.type), summary.isClean)
    let qualify (items : List Sql.SelectItem) :=
      (query items).rewrite (Sql.qualification ⟨"t", none⟩)
    (qualify [column [] "a"] = qualify [column ["t"] "a"] ∧
      told (s "u" "b") [column [] "a"] = ([("a", some false, none)], false) ∧
      told (s "u" "b") [column ["t"] "a"] = ([("a", none, none)], true)) ∧
    (qualify [column [] "Id", column ["t"] "id"] = qualify [column [] "Id", column [] "id"] ∧
      told (s "t" "b") [column [] "Id", column ["t"] "id"] =
        ([("Id", some false, none), ("id", some false, none)], false) ∧
      told (s "t" "b") [column [] "Id", column [] "id"] = ([("Id", some false, none)], false)) ∧
    (qualify [column [""] "c", column [] "c"] = qualify [column [""] "c", column ["t"] "c"] ∧
      told (s "t" "c") [column [""] "c", column [] "c"] = ([("c", none, none)], true) ∧
      told (s "t" "c") [column [""] "c", column ["t"] "c"] =
        ([("c", none, none), ("c", some true, some "INT")], true)) := by
  refine ⟨⟨rfl, ?_, ?_⟩, ⟨rfl, ?_, ?_⟩, rfl, ?_, ?_⟩ <;> decide +kernel

end Footprint

end SqlFootprint
