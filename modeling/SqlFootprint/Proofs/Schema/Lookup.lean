import SqlFootprint.Proofs.Schema.Insertion
import SqlFootprint.Proofs.Text.Case

/-!
# Two ways to look up a name

The map of types takes names in full lower case, and of the columns of one name it keeps the last.
The list of declared tables is searched up to the case of ASCII letters, and the first column that
fits is found. So the two ways agree on a name exactly if it is spelled like the declared one in all
letters outside ASCII, and the first column that fits has the type of the last one of its name.
-/

namespace SqlFootprint

namespace SchemaTable

variable {t : SchemaTable} {name : String} {c : SchemaColumn}

/-- A column that is found up to the case of ASCII letters has a last one of its name. -/
theorem isSome_lastColumn? (h : t.column? name = some c) :
    (t.lastColumn? (Text.lower name)).isSome := by
  have fits := List.find?_some h
  have same : Text.lower c.name = Text.lower name := Text.lower_eq_of_sameName fits
  rw [lastColumn?, List.findRev?_eq_find?_reverse, List.find?_isSome]
  exact ⟨c, List.mem_reverse.2 (List.mem_of_find?_eq_some h), beq_iff_eq.2 same⟩

end SchemaTable

namespace Schema

/-- The table that is kept under a name, up to the case of all letters. -/
def declared? (s : Schema) (table : String) : Option SchemaTable :=
  s.details.find? (·.key == Text.lower table)

variable (ts : List SchemaTable) (table column : String)

/-! ## Both ways in terms of the table under a name -/

theorem columns?_eq :
    (ofTables ts).columns? table = ((ofTables ts).declared? table).map SchemaTable.types :=
  get?_tables ts _

theorem hasTable_eq : (ofTables ts).hasTable table = ((ofTables ts).declared? table).isSome := by
  rw [hasTable, columns?_eq, Option.isSome_map]

theorem columnType?_eq :
    (ofTables ts).columnType? table column =
      (((ofTables ts).declared? table).bind (·.lastColumn? (Text.lower column))).map (·.type) := by
  rw [columnType?, columns?_eq]
  cases (ofTables ts).declared? table with
  | none => rfl
  | some t => exact t.get?_types _

/-- The search in the list of tables finds the table under a name only if the letters outside ASCII
are in the same case. -/
theorem detail?_eq :
    (ofTables ts).detail? table =
      ((ofTables ts).declared? table).filter (Text.sameName ·.name table) := by
  cases h : (ofTables ts).detail? table with
  | some t =>
    have fits := List.find?_some h
    have found : (ofTables ts).declared? table = some t := find?_details_eq_some_iff.2
      ⟨List.mem_of_find?_eq_some h, Text.lower_eq_of_sameName fits⟩
    rw [found, Option.filter_some, if_pos fits]
  | none =>
    rw [eq_comm, Option.filter_eq_none_iff]
    intro t found
    exact List.find?_eq_none.1 h t (find?_details_eq_some_iff.1 found).1

/-! ## Agreement -/

theorem hasTable_eq_isSome_detail?_iff :
    (ofTables ts).hasTable table = ((ofTables ts).detail? table).isSome ↔
      ∀ t, (ofTables ts).declared? table = some t → Text.sameName t.name table := by
  rw [hasTable_eq, detail?_eq]
  cases (ofTables ts).declared? table with
  | none => simp
  | some t =>
    rw [Option.filter_some]
    split_ifs with same <;> simp [same]

theorem columnType?_eq_type_of_detail?_iff :
    (ofTables ts).columnType? table column =
        (((ofTables ts).detail? table).bind (·.column? column)).map (·.type) ↔
      ∀ t, (ofTables ts).declared? table = some t →
        ∀ c, t.lastColumn? (Text.lower column) = some c →
          Text.sameName t.name table ∧ (t.column? column).map (·.type) = some c.type := by
  rw [columnType?_eq, detail?_eq]
  cases (ofTables ts).declared? table with
  | none => simp
  | some t =>
    rw [Option.filter_some, Option.bind_some]
    cases last : t.lastColumn? (Text.lower column) with
    | none =>
      -- Without a last column of the name there is no first one that fits.
      have absent : t.column? column = none := Option.eq_none_iff_forall_ne_some.2 fun c h ↦
        absurd (SchemaTable.isSome_lastColumn? h) (by rw [last]; exact Bool.false_ne_true)
      split_ifs <;> simp [last, absent]
    | some c =>
      split_ifs with same
      · simp [last, same, eq_comm (a := some c.type)]
      · simp [last, same]

/-- The map and the list agree on a table exactly if its name is that of the declared one up to the
case of ASCII letters. They agree on the type of a column exactly if, where the map has one, this
holds of the table, and the first column that fits has the type of the last one of its name. -/
theorem lookups_agree_iff :
    ((ofTables ts).hasTable table = ((ofTables ts).detail? table).isSome ↔
      ∀ t ∈ (ofTables ts).details, t.key = Text.lower table → Text.sameName t.name table) ∧
    ((ofTables ts).columnType? table column =
        (((ofTables ts).detail? table).bind (·.column? column)).map (·.type) ↔
      ∀ t ∈ (ofTables ts).details, t.key = Text.lower table →
        ∀ c, t.lastColumn? (Text.lower column) = some c →
          Text.sameName t.name table ∧ (t.column? column).map (·.type) = some c.type) := by
  rw [hasTable_eq_isSome_detail?_iff, columnType?_eq_type_of_detail?_iff]
  simp only [declared?, find?_details_eq_some_iff, and_imp, and_self]

/-- The map alone finds a table by a letter outside ASCII in another case, and of two columns of one
name each way finds another. -/
theorem not_lookups_agree :
    (¬∀ ts table, (ofTables ts).hasTable table = ((ofTables ts).detail? table).isSome) ∧
      ¬∀ ts table column, (ofTables ts).columnType? table column =
        (((ofTables ts).detail? table).bind (·.column? column)).map (·.type) := by
  constructor
  · intro agree
    exact absurd (agree [⟨"É", none, []⟩] "é") (by decide +kernel)
  · intro agree
    let twice : SchemaTable :=
      ⟨"t", none, [{ name := "a", type := "INT" }, { name := "a", type := "TEXT" }]⟩
    exact absurd (agree [twice] "t" "a") (by decide +kernel)

end Schema

end SqlFootprint
