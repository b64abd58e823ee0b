import Mathlib.Data.List.Induction
import SqlFootprint.Proofs.Validation.Annotation

/-!
# Which table a column is judged by

Extraction leaves the name of its table in a column, but validation takes that name for a qualifier
and looks it up again, among the tables of the footprint and with the latest entry first. A name
may thus be answered by the alias of another table. What a column is judged by is its own table
exactly if the name means itself.
-/

namespace SqlFootprint

namespace TableUse

/-- Whether a qualifier fits a table by its name or its alias, up to case. -/
def answersTo (qualifier : String) (t : TableUse) : Bool :=
  Text.lower t.name == Text.lower qualifier ||
    t.aliasName.any (Text.lower · == Text.lower qualifier)

/-- The latest of some tables that a name fits, if there is one, is of that name. -/
def NamesItself (tables : List TableUse) (name : String) : Prop :=
  ∀ t ∈ tables.reverse.find? (answersTo name), Text.lower t.name = Text.lower name

instance (tables : List TableUse) (name : String) : Decidable (NamesItself tables name) := by
  unfold NamesItself
  infer_instance

end TableUse

/-! ## Qualifiers -/

theorem lookup_cons_eq (key name : String) (entries : List (String × String))
    (qualifier : String) :
    List.lookup qualifier ((key, name) :: entries) =
      if key = qualifier then some name else entries.lookup qualifier := by
  by_cases h : key = qualifier
  · rw [if_pos h, h, List.lookup_cons_self]
  · rw [if_neg h, List.lookup_cons, beq_false_of_ne (Ne.symm h)]

/-- The entries of one more table come first, and answer what it fits. -/
theorem lookup_aliasEntries_concat (tables : List TableUse) (t : TableUse) (qualifier : String) :
    (aliasEntries (tables ++ [t])).lookup (Text.lower qualifier) =
      if t.answersTo qualifier then some t.name
      else (aliasEntries tables).lookup (Text.lower qualifier) := by
  rw [aliasEntries, List.foldl_append, List.foldl_cons, List.foldl_nil, TableUse.answersTo]
  by_cases hn : Text.lower t.name = Text.lower qualifier
  · cases t.aliasName with
    | none => simp only [lookup_cons_eq, hn, if_true, beq_self_eq_true, Bool.true_or]
    | some a => simp only [lookup_cons_eq, hn, if_true, beq_self_eq_true, Bool.true_or, ite_self]
  · cases t.aliasName with
    | none => simp [lookup_cons_eq, hn, aliasEntries]
    | some a => simp [lookup_cons_eq, hn, aliasEntries]

/-- The entries answer a qualifier with the latest table that it fits. -/
theorem lookup_aliasEntries (tables : List TableUse) (qualifier : String) :
    (aliasEntries tables).lookup (Text.lower qualifier) =
      (tables.reverse.find? (·.answersTo qualifier)).map TableUse.name := by
  induction tables using List.reverseRecOn with
  | nil => rfl
  | append_singleton tables t ih =>
    rw [lookup_aliasEntries_concat, List.reverse_append, List.reverse_singleton,
      List.singleton_append]
    by_cases h : t.answersTo qualifier
    · rw [if_pos h, List.find?_cons_of_pos h, Option.map_some]
    · rw [if_neg h, List.find?_cons_of_neg h, ih]

theorem qualifiedTable_eq (tables : List TableUse) (qualifier : String) :
    qualifiedTable tables qualifier =
      ((tables.reverse.find? (·.answersTo qualifier)).map TableUse.name).getD qualifier := by
  rw [qualifiedTable, lookup_aliasEntries]

theorem TableUse.namesItself_iff {tables : List TableUse} {name : String} :
    NamesItself tables name ↔ Text.lower (qualifiedTable tables name) = Text.lower name := by
  rw [qualifiedTable_eq, NamesItself]
  cases tables.reverse.find? (·.answersTo name) with
  | none => simp
  | some t => simp

namespace Schema

/-! ## Verdicts -/

/-- A column as a given table marks it. -/
def markIn (s : Schema) (table : String) (c : ColumnUse) : ColumnUse :=
  if s.hasTable table then
    match s.columnType? table c.name with
    | some type => c.accept (some type)
    | none => c.reject
  else c.unjudged

theorem mark_judgeQualified (s : Schema) (policy : AmbiguityPolicy) (table : String)
    (c : ColumnUse) : (s.judgeQualified table c.name).mark policy c = s.markIn table c := by
  unfold judgeQualified markIn
  split
  · cases s.columnType? table c.name with
    | none => rfl
    | some type => rfl
  · rfl

/-- A schema knows tables up to case. -/
theorem markIn_congr (s : Schema) {table table' : String}
    (h : Text.lower table = Text.lower table') (c : ColumnUse) :
    s.markIn table c = s.markIn table' c := by
  unfold markIn hasTable columnType? columns?
  rw [h]

theorem judged_eq_markIn (s : Schema) (policy : AmbiguityPolicy) (tables : List TableUse)
    {c : ColumnUse} {table : String} (hw : ¬c.isWildcard) (ht : c.table = some table) :
    s.judged policy tables c = s.markIn (qualifiedTable tables table) c := by
  rw [judged, if_neg hw, judge, ht]
  exact s.mark_judgeQualified policy _ c

/-- The schema of one table with one column. -/
def single (table : String) (column : SchemaColumn) : Schema :=
  empty.insert ⟨table, none, [column]⟩

@[simp] theorem columns?_single (table : String) (column : SchemaColumn) (other : String) :
    (single table column).columns? other =
      if Text.lower table = Text.lower other then some [(Text.lower column.name, column.type)]
      else none :=
  NameMap.get?_insert _ _ _ _

/-- Where a schema has one table, the columns of all others are left unjudged. -/
theorem valid_markIn_single (table : String) (c : ColumnUse) (column : SchemaColumn)
    (hc : column.name = c.name) (other : String) :
    ((single table column).markIn other c).valid = some true ↔
      Text.lower other = Text.lower table := by
  by_cases h : Text.lower table = Text.lower other
  · simp [markIn, hasTable, columnType?, h, hc, NameMap.get?, ColumnUse.accept]
  · simp [markIn, hasTable, h, Ne.symm h, ColumnUse.unjudged]

end Schema

/-- What a column is marked by is its own table if the name of that means itself, and only then. -/
theorem Footprint.judged_by_own_table_iff {limit : Nat} {statement : Sql.Statement} {text : String}
    {f : Footprint} (hf : f ∈ (ofStatement limit statement text).parts) {i : Nat} {c : ColumnUse}
    (hc : f.columns[i]? = some c) (hw : ¬c.isWildcard) {table : String}
    (ht : c.table = some table) :
    ((∀ (s : Schema) policy,
        (s.judgeAll policy f.tables f.columns).1[i]? = some (s.markIn table c)) ↔
      TableUse.NamesItself f.tables table) ∧
    ∀ (s : Schema) policy, ∃ g ∈ (s.validate policy (ofStatement limit statement text)).1.parts,
      g.tables = f.tables ∧ g.columns = (s.judgeColumns policy f.tables f.columns).1 := by
  refine ⟨?_, fun s policy ↦ ⟨(s.annotate policy f).1, ?_, ?_, ?_⟩⟩
  · have judged (s : Schema) (policy : AmbiguityPolicy) :
        (s.judgeAll policy f.tables f.columns).1[i]? =
          some (s.markIn (qualifiedTable f.tables table) c) := by
      rw [s.judgeAll_columns, List.getElem?_map, hc, Option.map_some,
        s.judged_eq_markIn policy f.tables hw ht]
    simp only [judged, Option.some.injEq, TableUse.namesItself_iff]
    constructor
    · intro own
      -- A schema that knows the column in its own table only tells the tables apart.
      have same := own (.single table ⟨c.name, "", true, false, false⟩) .assumeValid
      rw [← Schema.valid_markIn_single table c ⟨c.name, "", true, false, false⟩ rfl, same,
        Schema.valid_markIn_single table c ⟨c.name, "", true, false, false⟩ rfl]
    · intro same s _
      exact s.markIn_congr same c
  · rw [Schema.validate, s.parts_annotate]
    exact List.mem_map_of_mem hf
  · rw [s.annotate_footprint]
    rfl
  · rw [s.annotate_footprint]
    rfl

/-- In `SELECT u.name FROM users u, orders users` the column is not judged by its own table. -/
theorem Footprint.not_judged_by_own_table :
    let f := ofStatement 4 (.query (.plain [.expr (.column [⟨"u", none⟩] ⟨"name", none⟩)]
      [.named [⟨"users", none⟩] "u", .named [⟨"orders", none⟩] "users"])) ""
    ¬∀ (s : Schema) policy, (s.judgeAll policy f.tables f.columns).1[0]? =
      some (s.markIn "users" ⟨"name", "users", none, .ofRole .selected, none, none⟩) := by
  intro f own
  have listed : f.columns[0]? =
      some ⟨"name", "users", none, .ofRole .selected, none, none⟩ := by decide +kernel
  have itself := (judged_by_own_table_iff f.mem_parts_self listed (by decide) rfl).1.1 own
  exact absurd itself (by decide +kernel)

end SqlFootprint
