import Mathlib.Data.List.Nodup
import SqlFootprint.Proofs.Schema.NameMap
import SqlFootprint.Schema.Definition

/-!
# Schemas of some tables

A schema is kept in two forms, a map of types and a list of tables as they were declared. However
often a table is declared again, and in whatever case its name is written, both forms say what the
last declaration of each name says.
-/

namespace SqlFootprint

namespace SchemaTable

/-! ## One table in both forms -/

/-- The last column of a name, which is given in lower case. -/
def lastColumn? (t : SchemaTable) (name : String) : Option SchemaColumn :=
  t.columns.findRev? (Text.lower ·.name == name)

theorem inOrder_types (t : SchemaTable) : t.types.InOrder :=
  NameMap.inOrder_ofList _

theorem get?_types (t : SchemaTable) (name : String) :
    t.types.get? name = (t.lastColumn? name).map (·.type) := by
  rw [types, NameMap.get?_ofList, List.findRev?_eq_find?_reverse, ← List.map_reverse,
    List.find?_map, ← List.findRev?_eq_find?_reverse, Option.map_map]
  rfl

/-! ## Tables in a list -/

variable (t : SchemaTable) (us : List SchemaTable)

theorem map_key_replace :
    (t.replace us).map key = if t.key ∈ us.map key then us.map key else us.map key ++ [t.key] := by
  induction us with
  | nil => rfl
  | cons u us ih =>
    rw [replace]
    by_cases same : u.key = t.key
    · simp [same]
    · have other : t.key ≠ u.key := fun same' ↦ same same'.symm
      rw [if_neg (mt beq_iff_eq.1 same), List.map_cons, ih]
      simp only [List.map_cons, List.mem_cons, other, false_or]
      split_ifs <;> rfl

theorem find?_key_cons (k : String) :
    (t :: us).find? (·.key == k) = if t.key = k then some t else us.find? (·.key == k) := by
  rw [List.find?_cons]
  by_cases h : t.key = k
  · rw [if_pos h, beq_iff_eq.2 h]
  · rw [if_neg h, beq_eq_false_iff_ne.2 h]

theorem find?_key_replace (k : String) :
    (t.replace us).find? (·.key == k) = if t.key = k then some t else us.find? (·.key == k) := by
  induction us with
  | nil => exact find?_key_cons t [] k
  | cons u us ih =>
    rw [replace, find?_key_cons u us]
    by_cases same : u.key = t.key
    · -- The table that is replaced has the key of the one in its place.
      rw [if_pos (beq_iff_eq.2 same), find?_key_cons, same]
      split_ifs <;> rfl
    · rw [if_neg (mt beq_iff_eq.1 same), find?_key_cons, ih]
      by_cases h : u.key = k
      · have other : t.key ≠ k := fun h' ↦ same (h.trans h'.symm)
        rw [if_pos h, if_neg other, if_pos h]
      · rw [if_neg h, if_neg h]

variable {t us} in
/-- Of tables with different keys, each is found by its own. -/
theorem find?_key_eq_some_iff {k : String} (h : (us.map key).Nodup) :
    us.find? (·.key == k) = some t ↔ t ∈ us ∧ t.key = k := by
  have of_found {u : SchemaTable} {k : String} (found : us.find? (·.key == k) = some u) :
      u ∈ us ∧ u.key = k := by
    have fits := List.find?_some found
    exact ⟨List.mem_of_find?_eq_some found, beq_iff_eq.1 fits⟩
  refine ⟨of_found, ?_⟩
  rintro ⟨ht, rfl⟩
  have found : (us.find? (·.key == t.key)).isSome :=
    List.find?_isSome.2 ⟨t, ht, beq_self_eq_true _⟩
  obtain ⟨u, hu⟩ := Option.isSome_iff_exists.1 found
  obtain ⟨mem, same⟩ := of_found hu
  rw [hu, List.inj_on_of_nodup_map h mem ht same]

end SchemaTable

/-- The table that a statement declares. -/
def Sql.Statement.table? : Sql.Statement → Option SchemaTable
  | .createTable c => some c.toSchemaTable
  | _ => none

namespace Schema

open SchemaTable (key)

/-! ## Both forms of a schema -/

/-- The schema of some tables, which are added in their order. -/
def ofTables (ts : List SchemaTable) : Schema :=
  ts.foldl insert empty

theorem ofTables_concat (ts : List SchemaTable) (t : SchemaTable) :
    ofTables (ts ++ [t]) = (ofTables ts).insert t :=
  List.foldl_concat ..

theorem define_eq (s : Schema) (statement : Sql.Statement) :
    s.define statement = statement.table?.elim s s.insert := by
  cases statement <;> rfl

/-- Only the tables that statements declare count. -/
theorem ofStatements_eq (statements : List Sql.Statement) :
    ofStatements statements = ofTables (statements.filterMap Sql.Statement.table?) := by
  induction statements using List.reverseRecOn with
  | nil => rfl
  | append_singleton statements statement ih =>
    rw [ofStatements, List.foldl_concat, ← ofStatements, ih, define_eq, List.filterMap_append]
    cases h : statement.table? with
    | none => simp [h]
    | some t =>
      rw [List.filterMap_cons_some h, List.filterMap_nil, ofTables_concat]
      rfl

variable (ts : List SchemaTable)

/-- The tables stand in the order in which their names came up first. -/
theorem map_key_details : (ofTables ts).details.map key = (ts.map key).eraseDups := by
  induction ts using List.reverseRecOn with
  | nil => rfl
  | append_singleton ts t ih =>
    rw [ofTables_concat, insert, SchemaTable.map_key_replace, ih, List.map_append,
      List.map_singleton, List.eraseDups_append, List.cons_removeAll, List.nil_removeAll]
    by_cases h : t.key ∈ ts.map key
    · have seen : (ts.map key).contains t.key = true := List.contains_iff_mem.2 h
      rw [if_pos (List.mem_eraseDups.2 h), seen, if_neg nofun, List.eraseDups_nil,
        List.append_nil]
    · have unseen : (ts.map key).contains t.key = false := by simpa using h
      rw [if_neg (mt List.mem_eraseDups.1 h), if_pos unseen]
      rfl

theorem nodup_map_key_details : ((ofTables ts).details.map key).Nodup := by
  induction ts using List.reverseRecOn with
  | nil => exact List.nodup_nil
  | append_singleton ts t ih =>
    rw [ofTables_concat, insert, SchemaTable.map_key_replace]
    split_ifs with h
    · exact ih
    · exact List.nodup_append.2 ⟨ih, List.nodup_singleton _, by simpa using h⟩

/-- Under each key stands the last table that was added under it. -/
theorem find?_details (k : String) :
    (ofTables ts).details.find? (·.key == k) = ts.findRev? (·.key == k) := by
  induction ts using List.reverseRecOn with
  | nil => rfl
  | append_singleton ts t ih =>
    rw [ofTables_concat, insert, SchemaTable.find?_key_replace, findRev?_concat, ih]
    by_cases h : t.key = k <;> simp [h]

theorem get?_tables (k : String) :
    (ofTables ts).tables.get? k =
      ((ofTables ts).details.find? (·.key == k)).map SchemaTable.types := by
  rw [find?_details]
  induction ts using List.reverseRecOn with
  | nil => rfl
  | append_singleton ts t ih =>
    rw [ofTables_concat, insert, NameMap.get?_insert, findRev?_concat, ih]
    by_cases h : t.key = k <;> simp [h]

theorem inOrder_tables : (ofTables ts).tables.InOrder := by
  induction ts using List.reverseRecOn with
  | nil => exact List.Pairwise.nil
  | append_singleton ts t ih =>
    rw [ofTables_concat]
    exact ih.insert _ _

/-! ## Tables under their keys -/

variable {ts} {t : SchemaTable} {k : String}

theorem find?_details_eq_some_iff :
    (ofTables ts).details.find? (·.key == k) = some t ↔ t ∈ (ofTables ts).details ∧ t.key = k :=
  SchemaTable.find?_key_eq_some_iff (nodup_map_key_details ts)

theorem mem_keys_tables_iff :
    k ∈ (ofTables ts).tables.keys ↔ k ∈ (ofTables ts).details.map key := by
  rw [NameMap.mem_keys_iff, get?_tables, Option.isSome_map, List.find?_isSome, List.mem_map]
  simp only [beq_iff_eq]

/-! ## What a schema declares -/

/-- Both forms of a schema say what the last of some tables of each name says. -/
structure Declares (s : Schema) (ts : List SchemaTable) : Prop where
  /-- The tables stand in the order in which their names came up first. -/
  order : s.details.map key = (ts.map key).eraseDups
  /-- Each is the last one of its name. -/
  latest : ∀ t ∈ s.details, ts.findRev? (·.key == t.key) = some t
  nodup : (s.details.map key).Nodup
  keys : s.tables.keys.Perm (s.details.map key)
  inOrder : s.tables.InOrder
  /-- The types under a key are those of the columns of its table, of which the last one counts for
  its name. -/
  types : ∀ e ∈ s.tables, ∃ t ∈ s.details, t.key = e.1 ∧ e.2.InOrder ∧
    ∀ column type, (column, type) ∈ e.2 ↔ (t.lastColumn? column).map (·.type) = some type

theorem declares_ofTables (ts : List SchemaTable) : (ofTables ts).Declares ts where
  order := map_key_details ts
  latest t ht := (find?_details ts t.key).symm.trans (find?_details_eq_some_iff.2 ⟨ht, rfl⟩)
  nodup := nodup_map_key_details ts
  keys := (List.perm_ext_iff_of_nodup (inOrder_tables ts).nodup_keys
    (nodup_map_key_details ts)).2 fun _ ↦ mem_keys_tables_iff
  inOrder := inOrder_tables ts
  types := by
    rintro ⟨k, types⟩ he
    have found : (ofTables ts).tables.get? k = some types := (inOrder_tables ts).mem_iff.1 he
    rw [get?_tables] at found
    obtain ⟨t, ht, rfl⟩ := Option.map_eq_some_iff.1 found
    obtain ⟨mem, same⟩ := find?_details_eq_some_iff.1 ht
    refine ⟨t, mem, same, t.inOrder_types, fun column type ↦ ?_⟩
    rw [t.inOrder_types.mem_iff, t.get?_types]

/-- Whether tables are added or declared by statements, both forms of their schema declare them. -/
theorem both_forms_declare (ts : List SchemaTable) (statements : List Sql.Statement) :
    (ofTables ts).Declares ts ∧
      (ofStatements statements).Declares (statements.filterMap Sql.Statement.table?) := by
  rw [ofStatements_eq]
  exact ⟨declares_ofTables ts, declares_ofTables _⟩

/-- A table that is declared again keeps its place. -/
example : (ofTables [⟨"A", none, []⟩, ⟨"b", none, []⟩, ⟨"a", some "s", []⟩]).details =
    [⟨"a", some "s", []⟩, ⟨"b", none, []⟩] := by decide +kernel

end Schema

end SqlFootprint
