import SqlFootprint.Proofs.Schema.Insertion
import SqlFootprint.Proofs.Validation.Agreement

/-!
# What a schema is asked for

A validation asks a schema for the tables that a tree lists and for those that its columns name, and
for no others. So schemas that have the same to say of these judge the tree alike, down to the
issues. What else is in a schema makes no difference: other tables may be added to it, taken away,
or declared in another way.
-/

namespace SqlFootprint

/-- The names under which a schema is asked for tables: those of the tables of a tree, and the
qualifiers of its columns. -/
def Footprint.asked (f : Footprint) : List String :=
  f.parts.flatMap fun g ↦ g.tables.map TableUse.name ++ g.columns.filterMap ColumnUse.table

/-- Whether a tree asks for a table of this name. -/
def SchemaTable.isAskedBy (t : SchemaTable) (f : Footprint) : Bool :=
  f.asked.any (Text.lower · == t.key)

namespace Footprint

variable {f g : Footprint}

theorem asked_eq (f : Footprint) :
    f.asked = f.tables.map TableUse.name ++ f.columns.filterMap ColumnUse.table ++
      f.children.flatMap asked := by
  unfold asked
  rw [parts_eq, List.flatMap_cons, List.flatMap_assoc]

theorem mem_asked_of_mem_tables {t : TableUse} (h : t ∈ f.tables) : t.name ∈ f.asked := by
  rw [asked_eq, List.append_assoc]
  exact List.mem_append_left _ (List.mem_map_of_mem h)

theorem mem_asked_of_mem_columns {c : ColumnUse} (h : c ∈ f.columns) {qualifier : String}
    (ht : c.table = some qualifier) : qualifier ∈ f.asked := by
  rw [asked_eq]
  refine List.mem_append_left _ (List.mem_append_right _ ?_)
  exact List.mem_filterMap.2 ⟨c, h, ht⟩

theorem asked_subset_of_mem_children (h : g ∈ f.children) : g.asked ⊆ f.asked := by
  intro name hn
  rw [asked_eq f]
  exact List.mem_append_right _ (List.mem_flatMap.2 ⟨g, h, hn⟩)

end Footprint

/-- A qualifier is looked up as a table that is listed, or else as it stands. -/
theorem qualifiedTable_eq_or (tables : List TableUse) (qualifier : String) :
    qualifiedTable tables qualifier = qualifier ∨
      ∃ t ∈ tables, qualifiedTable tables qualifier = t.name := by
  rw [qualifiedTable_eq]
  cases found : tables.reverse.find? (·.answersTo qualifier) with
  | none => exact .inl rfl
  | some t => exact .inr ⟨t, List.mem_reverse.1 (List.mem_of_find?_eq_some found), rfl⟩

namespace Schema

/-- Two schemas know the same columns under each of some names, or both know none. -/
structure AgreeOn (s s' : Schema) (names : List String) : Prop where
  columns : ∀ name ∈ names, s.columns? name = s'.columns? name

namespace AgreeOn

variable {s s' : Schema} {names more : List String} {f : Footprint}

theorem mono (h : s.AgreeOn s' names) (sub : more ⊆ names) : s.AgreeOn s' more where
  columns name hn := h.columns name (sub hn)

/-! ## Verdicts -/

theorem hasTable (h : s.AgreeOn s' names) {table : String} (ht : table ∈ names) :
    s.hasTable table = s'.hasTable table := by
  rw [Schema.hasTable, Schema.hasTable, h.columns table ht]

theorem columnType? (h : s.AgreeOn s' names) {table : String} (ht : table ∈ names)
    (column : String) : s.columnType? table column = s'.columnType? table column := by
  rw [Schema.columnType?, Schema.columnType?, h.columns table ht]

theorem judgeQualified (h : s.AgreeOn s' names) {table : String} (ht : table ∈ names)
    (column : String) : s.judgeQualified table column = s'.judgeQualified table column := by
  rw [Schema.judgeQualified, Schema.judgeQualified, h.hasTable ht, h.columnType? ht]

theorem judgeBare (h : s.AgreeOn s' names) {listed : List String} (hl : listed ⊆ names)
    (column : String) : s.judgeBare listed column = s'.judgeBare listed column := by
  have owners : s.owners listed column = s'.owners listed column := by
    refine List.filterMap_congr fun t ht ↦ ?_
    rw [h.columnType? (hl ht)]
  rw [Schema.judgeBare, Schema.judgeBare, owners]

/-- A column is judged by a listed table, or by the one that it names. -/
theorem judge (h : s.AgreeOn s' f.asked) {c : ColumnUse} (hc : c ∈ f.columns) :
    s.judge f.tables c = s'.judge f.tables c := by
  unfold Schema.judge
  cases ht : c.table with
  | some qualifier =>
    refine h.judgeQualified ?_ c.name
    rcases qualifiedTable_eq_or f.tables qualifier with itself | ⟨t, listed, named⟩
    · rw [itself]
      exact Footprint.mem_asked_of_mem_columns hc ht
    · rw [named]
      exact Footprint.mem_asked_of_mem_tables listed
  | none =>
    refine h.judgeBare (fun name hn ↦ ?_) c.name
    obtain ⟨t, listed, rfl⟩ := TableUse.exists_of_mem_referencedNames hn
    exact Footprint.mem_asked_of_mem_tables listed

theorem ownVerdicts (h : s.AgreeOn s' f.asked) : s.ownVerdicts f = s'.ownVerdicts f :=
  List.map_congr_left fun _ hc ↦ h.judge (List.mem_of_mem_filter hc)

/-! ## Trees -/

theorem judgeOwn (h : s.AgreeOn s' f.asked) (policy : AmbiguityPolicy) :
    s.judgeOwn policy f = s'.judgeOwn policy f := by
  have judged : f.columns.map (s.judged policy f.tables) =
      f.columns.map (s'.judged policy f.tables) := by
    refine List.map_congr_left fun c hc ↦ ?_
    rw [Schema.judged, Schema.judged, h.judge hc]
  have verdicts : (f.columns.filter (!·.isWildcard)).map (s.judge f.tables) =
      (f.columns.filter (!·.isWildcard)).map (s'.judge f.tables) := h.ownVerdicts
  simp only [Schema.judgeOwn, judgeColumns_columns, judged, verdicts]

theorem annotate (h : s.AgreeOn s' f.asked) (policy : AmbiguityPolicy) :
    s.annotate policy f = s'.annotate policy f := by
  induction f using Footprint.induct with
  | step f ih =>
    have inner : ∀ g ∈ f.children, s.annotate policy g = s'.annotate policy g :=
      fun g hg ↦ ih g hg (h.mono (Footprint.asked_subset_of_mem_children hg))
    obtain ⟨ctes, subqueries⟩ :=
      Footprint.map_children_congr fun g hg ↦ congrArg Prod.fst (inner g hg)
    have verdicts : f.children.flatMap (fun g ↦ (s.annotate policy g).2) =
        f.children.flatMap fun g ↦ (s'.annotate policy g).2 :=
      List.flatMap_congr fun g hg ↦ by rw [inner g hg]
    apply Prod.ext
    · rw [annotate_footprint, annotate_footprint, h.judgeOwn, ctes, subqueries]
    · rw [annotate_verdicts, annotate_verdicts, h.ownVerdicts, verdicts]

/-- Where the tables that a tree asks for are declared alike, the schemas agree on them. -/
theorem of_declarations {ts ts' : List SchemaTable}
    (same : ts.filter (·.isAskedBy f) = ts'.filter (·.isAskedBy f)) :
    (ofTables ts).AgreeOn (ofTables ts') f.asked := by
  constructor
  intro name hn
  have asked (t : SchemaTable) (key : t.key == Text.lower name) : t.isAskedBy f :=
    List.any_eq_true.2 ⟨name, hn, beq_iff_eq.2 (beq_iff_eq.1 key).symm⟩
  have latest (us : List SchemaTable) : (ofTables us).columns? name =
      ((us.filter (·.isAskedBy f)).findRev? (·.key == Text.lower name)).map SchemaTable.types := by
    rw [columns?, get?_tables, find?_details, findRev?_filter_of_imp asked]
  rw [latest, latest, same]

end AgreeOn

/-- Schemas that agree on the tables that a tree asks for judge it alike, issues included. So of the
tables that are declared only these make a difference. -/
theorem validate_congr_of_asked (f : Footprint) (policy : AmbiguityPolicy) :
    (∀ s s' : Schema, (∀ name ∈ f.asked,
        s.tables.get? (Text.lower name) = s'.tables.get? (Text.lower name)) →
      s.validate policy f = s'.validate policy f) ∧
    ∀ ts ts' : List SchemaTable, ts.filter (·.isAskedBy f) = ts'.filter (·.isAskedBy f) →
      (ofTables ts).validate policy f = (ofTables ts').validate policy f := by
  have alike {s s' : Schema} (h : s.AgreeOn s' f.asked) :
      s.validate policy f = s'.validate policy f := by
    rw [validate, validate, h.annotate policy]
  exact ⟨fun s s' agree ↦ alike ⟨agree⟩, fun ts ts' same ↦ alike (.of_declarations same)⟩

/-- `SELECT o.id, nope FROM orders o` is judged in one way whether `users` is declared, declared
otherwise, or not at all. -/
theorem validate_congr_of_asked_sample :
    let column (path : List String) (name : String) : Sql.Expr :=
      .column (path.map (⟨·, none⟩)) ⟨name, none⟩
    let query : Sql.Query := .plain [.expr (column ["o"] "id"), .expr (column [] "nope")]
      [.named [⟨"orders", none⟩] "o"]
    let f := Footprint.ofStatement 4 (.query query) ""
    let orders : SchemaTable := ⟨"Orders", none, [{ name := "id", type := "INT" }]⟩
    let users (column : String) : SchemaTable :=
      ⟨"users", none, [{ name := column, type := "INT" }]⟩
    let s := ofTables [users "nope", orders, users "id"]
    f.asked = ["orders", "orders"] ∧ (s.validate .unknown f).2.valid = 1 ∧
      (s.validate .unknown f).2.issues = [.unknownColumn "nope" none] ∧
      s.validate .unknown f = (ofTables [orders]).validate .unknown f ∧
      s.validate .unknown f = (⟨s.tables, []⟩ : Schema).validate .unknown f := by
  intro column query f orders users s
  have one : [users "nope", orders, users "id"].filter (·.isAskedBy f) =
      [orders].filter (·.isAskedBy f) := by decide +kernel
  refine ⟨by decide +kernel, by decide +kernel, by decide +kernel, ?_, ?_⟩
  · exact (validate_congr_of_asked f .unknown).2 _ _ one
  · exact (validate_congr_of_asked f .unknown).1 _ _ fun _ _ ↦ rfl

end Schema

end SqlFootprint
