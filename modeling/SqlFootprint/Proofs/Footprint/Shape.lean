import SqlFootprint.Proofs.Footprint.WellFormed
import SqlFootprint.Proofs.Text.Case

/-!
# The shape of a footprint

The shape of a footprint is what is left of it when columns are written in lower case, as far as
the letters of ASCII go, and the texts of the statement are blotted out: its own, those of its
conditions and edges, and its notices. All the rest stays, position by position: the kind, the
tables, the roles, aliases, verdicts and types of the columns, the tables that edges join, how many
conditions there are, and the shapes of what is nested in it.

Whatever is done to a footprint is done to its shape.
-/

namespace SqlFootprint

/-! ## Columns -/

namespace ColumnUse

/-- A column in lower case. -/
def fold (c : ColumnUse) : ColumnUse :=
  { c with name := Text.foldAscii c.name, table := c.table.map Text.foldAscii }

theorem getD_map_foldAscii (table : Option String) :
    (table.map Text.foldAscii).getD "" = Text.foldAscii (table.getD "") := by
  cases table <;> simp

@[simp] theorem foldedKey_fold (c : ColumnUse) : c.fold.foldedKey = c.foldedKey := by
  simp only [foldedKey, fold, key, getD_map_foldAscii, Text.foldAscii_foldAscii]

theorem fold_record (c : ColumnUse) (columns : List ColumnUse) :
    (c.record columns).map fold = c.fold.record (columns.map fold) :=
  map_record (fun _ _ ↦ by rw [foldedKey_fold, foldedKey_fold]) (fun _ _ ↦ rfl) c columns

theorem fold_recordAll (columns new : List ColumnUse) :
    (recordAll columns new).map fold = recordAll (columns.map fold) (new.map fold) :=
  map_recordAll (fun _ _ ↦ by rw [foldedKey_fold, foldedKey_fold]) (fun _ _ ↦ rfl) columns new

end ColumnUse

/-- An edge with its columns in lower case and its text blotted out. -/
def JoinEdge.fold (e : JoinEdge) : JoinEdge :=
  { e with
    leftColumn := Text.foldAscii e.leftColumn
    rightColumn := Text.foldAscii e.rightColumn
    condition := e.condition.map fun _ ↦ "" }

/-! ## Footprints -/

namespace Footprint

mutual

def shape : Footprint → Footprint
  | ⟨kind, tables, columns, joins, conditions, ctes, subqueries, _, _⟩ =>
    ⟨kind, tables, columns.map ColumnUse.fold, joins.map JoinEdge.fold, conditions.map fun _ ↦ "",
      shapes ctes, shapes subqueries, "", []⟩

def shapes : List Footprint → List Footprint
  | [] => []
  | f :: fs => f.shape :: shapes fs

end

theorem shapes_eq_map (fs : List Footprint) : shapes fs = fs.map shape := by
  induction fs with
  | nil => rfl
  | cons f fs ih => rw [shapes, ih, List.map_cons]

theorem shape_eq (f : Footprint) : f.shape =
    ⟨f.kind, f.tables, f.columns.map ColumnUse.fold, f.joins.map JoinEdge.fold,
      f.conditions.map fun _ ↦ "", f.ctes.map shape, f.subqueries.map shape, "", []⟩ := by
  cases f
  rw [shape, shapes_eq_map, shapes_eq_map]

theorem shape_empty (kind : StatementKind) (text : String) :
    (empty kind text).shape = empty kind "" := by
  simp [shape_eq, empty]

theorem shape_addTable (f : Footprint) (t : TableUse) :
    (f.addTable t).shape = f.shape.addTable t := by
  simp only [shape_eq, addTable]

theorem shape_record (f : Footprint) (c : ColumnUse) :
    (f.record c).shape = f.shape.record c.fold := by
  simp only [shape_eq, record, ColumnUse.fold_record]

theorem shape_dedup (f : Footprint) : f.dedup.shape = f.shape.dedup := by
  simp only [shape_eq, dedup, ColumnUse.fold_recordAll, List.map_nil]

theorem shape_absorb (f child : Footprint) :
    (f.absorb child).shape = f.shape.absorb child.shape := by
  simp only [shape_eq, absorb, ColumnUse.fold_recordAll]

theorem shape_addJoin (f : Footprint) (e : JoinEdge) :
    (f.addJoin e).shape = f.shape.addJoin e.fold := by
  simp only [shape_eq, addJoin, List.map_append, List.map_singleton]

theorem shape_addCondition (f : Footprint) (text : String) :
    (f.addCondition text).shape = f.shape.addCondition "" := by
  simp only [shape_eq, addCondition, List.map_append, List.map_singleton]

/-- Of conditions only their number counts. -/
theorem shape_conditions_congr {f g : Footprint} (h : f.shape = g.shape) {cs ds : List String}
    (same : cs.length = ds.length) :
    ({ f with conditions := cs } : Footprint).shape =
      ({ g with conditions := ds } : Footprint).shape := by
  simp only [shape_eq, mk.injEq, List.map_const', same] at h ⊢
  obtain ⟨kind, tables, columns, joins, -, nested⟩ := h
  exact ⟨kind, tables, columns, joins, trivial, nested⟩

theorem length_conditions_of_shape_eq {f g : Footprint} (h : f.shape = g.shape) :
    f.conditions.length = g.conditions.length := by
  have blank := congrArg (fun s ↦ s.conditions.length) h
  simpa only [shape_eq, List.length_map] using blank

theorem shape_addCte (f child : Footprint) :
    (f.addCte child).shape = f.shape.addCte child.shape := by
  simp only [shape_eq, addCte, List.map_append, List.map_singleton]

theorem shape_addSubquery (f child : Footprint) :
    (f.addSubquery child).shape = f.shape.addSubquery child.shape := by
  simp only [shape_eq, addSubquery, List.map_append, List.map_singleton]

theorem shape_note (f : Footprint) (n : Notice) : (f.note n).shape = f.shape := by
  simp only [shape_eq, note]

end Footprint

end SqlFootprint
