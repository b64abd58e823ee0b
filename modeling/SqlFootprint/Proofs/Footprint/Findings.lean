import SqlFootprint.Proofs.Footprint.Classes

/-!
# Findings

What is done to a footprint while a statement is walked is to add to it. `Findings` are what is
added, apart from any footprint, and so can be told once for all footprints. They come one after the
other, and so they form a monoid that acts on footprints: `Footprint.add_append`.

The order of findings makes a difference only to the order of what is listed, and to what stands
first: the spelling and the alias of a column, and the schema of a table.
-/

namespace SqlFootprint

/-! ## The order of new values -/

section AddNew

variable {α : Type} [DecidableEq α] {l m new new' : List α}

theorem perm_addNew (h : l.Perm m) (a : α) : (addNew l a).Perm (addNew m a) := by
  unfold addNew
  simp only [h.mem_iff]
  split
  · exact h
  · exact h.append_right [a]

theorem perm_addNew_comm (l : List α) (a b : α) :
    (addNew (addNew l a) b).Perm (addNew (addNew l b) a) := by
  by_cases ha : a ∈ l
  · have there : a ∈ addNew l b := mem_addNew.2 (.inl ha)
    rw [addNew.eq_1 l a, if_pos ha, addNew.eq_1 (addNew l b) a, if_pos there]
  · by_cases hb : b ∈ l
    · have there : b ∈ addNew l a := mem_addNew.2 (.inl hb)
      rw [addNew.eq_1 l b, if_pos hb, addNew.eq_1 (addNew l a) b, if_pos there]
    · by_cases same : a = b
      · rw [same]
      · have apart : b ∉ l ++ [a] := by simp [hb, Ne.symm same]
        have apart' : a ∉ l ++ [b] := by simp [ha, same]
        rw [addNew.eq_1 l a, if_neg ha, addNew.eq_1 l b, if_neg hb, addNew, if_neg apart, addNew,
          if_neg apart', List.append_assoc, List.append_assoc]
        exact (List.Perm.swap b a []).append_left l

theorem perm_foldl_addNew_left (h : l.Perm m) (new : List α) :
    (new.foldl addNew l).Perm (new.foldl addNew m) := by
  induction new generalizing l m with
  | nil => exact h
  | cons a new ih => exact ih (perm_addNew h a)

/-- In whatever order values are added, the same come together. -/
theorem perm_foldl_addNew (h : new.Perm new') (l : List α) :
    (new.foldl addNew l).Perm (new'.foldl addNew l) := by
  induction h generalizing l with
  | nil => exact .refl l
  | cons a _ ih => exact ih (addNew l a)
  | swap a b new => exact perm_foldl_addNew_left (perm_addNew_comm l b a) new
  | trans _ _ ih ih' => exact (ih l).trans (ih' l)

end AddNew

/-! ## Findings -/

/-- What is added to a footprint, each in the order in which it comes. -/
structure Findings where
  tables : List TableUse := []
  columns : List ColumnUse := []
  joins : List JoinEdge := []
  conditions : List String := []
  ctes : List Footprint := []
  subqueries : List Footprint := []
  notices : List Notice := []

namespace Findings

instance : Append Findings where
  append a b :=
    ⟨a.tables ++ b.tables, a.columns ++ b.columns, a.joins ++ b.joins,
      a.conditions ++ b.conditions, a.ctes ++ b.ctes, a.subqueries ++ b.subqueries,
      a.notices ++ b.notices⟩

variable {a b : Findings}

@[simp] theorem tables_append : (a ++ b).tables = a.tables ++ b.tables := rfl

@[simp] theorem columns_append : (a ++ b).columns = a.columns ++ b.columns := rfl

@[simp] theorem joins_append : (a ++ b).joins = a.joins ++ b.joins := rfl

@[simp] theorem conditions_append : (a ++ b).conditions = a.conditions ++ b.conditions := rfl

@[simp] theorem ctes_append : (a ++ b).ctes = a.ctes ++ b.ctes := rfl

@[simp] theorem subqueries_append : (a ++ b).subqueries = a.subqueries ++ b.subqueries := rfl

@[simp] theorem notices_append : (a ++ b).notices = a.notices ++ b.notices := rfl

/-- No column has been judged. -/
def Fresh (a : Findings) : Prop :=
  ∀ c ∈ a.columns, c.standing = (none, none)

theorem Fresh.of_columns_eq_nil (h : a.columns = []) : a.Fresh := by
  rw [Fresh, h]
  exact List.forall_mem_nil _

theorem Fresh.append (ha : a.Fresh) (hb : b.Fresh) : (a ++ b).Fresh :=
  List.forall_mem_append.2 ⟨ha, hb⟩

end Findings

namespace Footprint

/-- Adds findings: tables and notices unless they are there, and columns under their keys. -/
def add (f : Footprint) (found : Findings) : Footprint :=
  { f with
    tables := found.tables.foldl TableUse.insert f.tables
    columns := ColumnUse.recordAll f.columns found.columns
    joins := f.joins ++ found.joins
    conditions := f.conditions ++ found.conditions
    ctes := f.ctes ++ found.ctes
    subqueries := f.subqueries ++ found.subqueries
    notices := found.notices.foldl addNew f.notices }

variable {f : Footprint} {a b : Findings}

theorem add_append (f : Footprint) (a b : Findings) : f.add (a ++ b) = (f.add a).add b := by
  simp only [add, Findings.tables_append, Findings.columns_append, Findings.joins_append,
    Findings.conditions_append, Findings.ctes_append, Findings.subqueries_append,
    Findings.notices_append, List.foldl_append, ColumnUse.recordAll_append, List.append_assoc]

/-! ## Single findings -/

theorem add_empty (f : Footprint) : f.add {} = f := by
  cases f
  simp [add, ColumnUse.recordAll]

theorem addTable_eq_add (f : Footprint) (t : TableUse) :
    f.addTable t = f.add { tables := [t] } := by
  simp [add, addTable, ColumnUse.recordAll]

theorem record_eq_add (f : Footprint) (c : ColumnUse) : f.record c = f.add { columns := [c] } := by
  simp [add, record, ColumnUse.recordAll]

theorem addCondition_eq_add (f : Footprint) (text : String) :
    f.addCondition text = f.add { conditions := [text] } := by
  simp [add, addCondition, ColumnUse.recordAll]

theorem note_eq_add (f : Footprint) (n : Notice) : f.note n = f.add { notices := [n] } := by
  simp [add, note, ColumnUse.recordAll, addNew]

/-! ## What is found together -/

theorem mem_notices_add {n : Notice} :
    n ∈ (f.add a).notices ↔ n ∈ f.notices ∨ n ∈ a.notices :=
  mem_foldl_addNew

theorem plays_add {role : Role} {key : String × String} :
    (f.add a).Plays role key ↔ f.Plays role key ∨ ColumnUse.Playing a.columns role key :=
  ColumnUse.playing_recordAll

/-- Two footprints say the same, up to the order of what they list and to what stands first. -/
structure SameFindings (f g : Footprint) : Prop where
  tables : (f.tables.map TableUse.identity).Perm (g.tables.map TableUse.identity)
  columns : (f.columns.map ColumnUse.told).Perm (g.columns.map ColumnUse.told)
  joins : f.joins.Perm g.joins
  conditions : f.conditions.Perm g.conditions
  ctes : f.ctes.Perm g.ctes
  subqueries : f.subqueries.Perm g.subqueries
  notices : f.notices.Perm g.notices

/-- In which order findings come makes no other difference. -/
theorem sameFindings_add_comm (f : Footprint) (ha : a.Fresh) (hb : b.Fresh) :
    (f.add (a ++ b)).SameFindings (f.add (b ++ a)) where
  tables := by
    have swap : (a.tables ++ b.tables).Perm (b.tables ++ a.tables) := List.perm_append_comm
    simp only [add, TableUse.map_identity_insertAll]
    exact perm_foldl_addNew (swap.map TableUse.identity) _
  columns := ColumnUse.perm_told_recordAll List.perm_append_comm (ha.append hb)
  joins := List.perm_append_comm.append_left _
  conditions := List.perm_append_comm.append_left _
  ctes := List.perm_append_comm.append_left _
  subqueries := List.perm_append_comm.append_left _
  notices := perm_foldl_addNew List.perm_append_comm _

end Footprint

end SqlFootprint
