import Mathlib.Data.List.Nodup
import SqlFootprint.Proofs.Footprint.Tree

/-!
# Well-formed footprints

A footprint lists each column, each table and each notice once, and a column that has a type is one
that a schema knows. Every way to change a footprint keeps this. For columns the reason is that
recording one changes no key that is there, and adds a key only if it is new.
-/

namespace SqlFootprint

/-! ## Lists without repetitions -/

section AddNew

variable {α : Type} [DecidableEq α] {a b : α} {l new : List α}

/-- Adds a value to the end unless it is there. -/
def addNew (l : List α) (a : α) : List α :=
  if a ∈ l then l else l ++ [a]

theorem nodup_addNew (h : l.Nodup) : (addNew l a).Nodup := by
  unfold addNew
  split
  · exact h
  · rw [← List.concat_eq_append]
    exact h.concat ‹_›

theorem nodup_foldl_addNew (h : l.Nodup) : (new.foldl addNew l).Nodup := by
  induction new generalizing l with
  | nil => exact h
  | cons a new ih => exact ih (nodup_addNew h)

theorem mem_addNew : b ∈ addNew l a ↔ b ∈ l ∨ b = a := by
  unfold addNew
  split
  · rename_i known
    refine ⟨.inl, ?_⟩
    rintro (h | rfl)
    · exact h
    · exact known
  · rw [List.mem_append, List.mem_singleton]

theorem mem_foldl_addNew : b ∈ new.foldl addNew l ↔ b ∈ l ∨ b ∈ new := by
  induction new generalizing l with
  | nil => exact (or_iff_left List.not_mem_nil).symm
  | cons a new ih => rw [List.foldl_cons, ih, mem_addNew, List.mem_cons, or_assoc]

end AddNew

namespace ColumnUse

/-! ## Keys -/

/-- What tells a column from others: its key, up to the case of ASCII letters. -/
def foldedKey (c : ColumnUse) : String × String :=
  (Text.foldAscii c.key.1, Text.foldAscii c.key.2)

theorem hasKey_eq_true_iff {c : ColumnUse} {table name : String} :
    c.hasKey table name ↔ c.foldedKey = (Text.foldAscii table, Text.foldAscii name) := by
  rw [hasKey, Bool.and_eq_true, Text.sameName_iff, Text.sameName_iff, foldedKey, Prod.mk.injEq]

theorem hasKey_iff {c d : ColumnUse} : c.hasKey d.key.1 d.key.2 ↔ c.foldedKey = d.foldedKey :=
  hasKey_eq_true_iff

theorem nodup_foldedKey_iff {cs : List ColumnUse} :
    (cs.map foldedKey).Nodup ↔ cs.Pairwise fun c d ↦ ¬c.hasKey d.key.1 d.key.2 := by
  simp only [List.Nodup, List.pairwise_map, hasKey_iff]

@[simp] theorem foldedKey_merge (c d : ColumnUse) : (c.merge d).foldedKey = c.foldedKey := rfl

/-- A recorded column keeps all keys, and its own comes last unless it is there. -/
theorem map_foldedKey_record (c : ColumnUse) (cs : List ColumnUse) :
    (c.record cs).map foldedKey = addNew (cs.map foldedKey) c.foldedKey := by
  induction cs with
  | nil => rfl
  | cons d ds ih =>
    unfold record addNew
    by_cases h : d.hasKey c.key.1 c.key.2
    · rw [if_pos h, List.map_cons, List.map_cons, foldedKey_merge,
        if_pos (List.mem_cons.2 (.inl (hasKey_iff.1 h).symm))]
    · have hne : c.foldedKey ≠ d.foldedKey := fun e ↦ h (hasKey_iff.2 e.symm)
      rw [if_neg h, List.map_cons, ih, List.map_cons, addNew]
      by_cases hc : c.foldedKey ∈ ds.map foldedKey
      · rw [if_pos hc, if_pos (List.mem_cons_of_mem _ hc)]
      · rw [if_neg hc, if_neg (List.not_mem_cons_of_ne_of_not_mem hne hc), List.cons_append]

theorem map_foldedKey_recordAll (cs new : List ColumnUse) :
    (recordAll cs new).map foldedKey = (new.map foldedKey).foldl addNew (cs.map foldedKey) := by
  induction new generalizing cs with
  | nil => rfl
  | cons c new ih =>
    rw [recordAll, List.foldl_cons, List.map_cons, List.foldl_cons, ← map_foldedKey_record]
    exact ih _

theorem nodup_record {c : ColumnUse} {cs : List ColumnUse} (h : (cs.map foldedKey).Nodup) :
    ((c.record cs).map foldedKey).Nodup := by
  rw [map_foldedKey_record]
  exact nodup_addNew h

theorem nodup_recordAll {cs new : List ColumnUse} (h : (cs.map foldedKey).Nodup) :
    ((recordAll cs new).map foldedKey).Nodup := by
  rw [map_foldedKey_recordAll]
  exact nodup_foldl_addNew h

theorem mem_foldedKey_recordAll {cs new : List ColumnUse} {key : String × String} :
    key ∈ (recordAll cs new).map foldedKey ↔
      key ∈ cs.map foldedKey ∨ key ∈ new.map foldedKey := by
  rw [map_foldedKey_recordAll]
  exact mem_foldl_addNew

theorem map_record {φ : ColumnUse → ColumnUse}
    (keys : ∀ c d, (φ c).foldedKey = (φ d).foldedKey ↔ c.foldedKey = d.foldedKey)
    (merges : ∀ c d, φ (c.merge d) = (φ c).merge (φ d)) (c : ColumnUse) (cs : List ColumnUse) :
    (c.record cs).map φ = (φ c).record (cs.map φ) := by
  induction cs with
  | nil => rfl
  | cons d ds ih =>
    have same : (φ d).hasKey (φ c).key.1 (φ c).key.2 = d.hasKey c.key.1 c.key.2 := by
      rw [Bool.eq_iff_iff, hasKey_iff, hasKey_iff, keys]
    rw [record, List.map_cons, record, same]
    split
    · rw [List.map_cons, merges]
    · rw [List.map_cons, ih]

/-- What tells the same keys apart and is kept by merging may be done to columns before or after
they are recorded. -/
theorem map_recordAll {φ : ColumnUse → ColumnUse}
    (keys : ∀ c d, (φ c).foldedKey = (φ d).foldedKey ↔ c.foldedKey = d.foldedKey)
    (merges : ∀ c d, φ (c.merge d) = (φ c).merge (φ d)) (cs new : List ColumnUse) :
    (recordAll cs new).map φ = recordAll (cs.map φ) (new.map φ) := by
  induction new generalizing cs with
  | nil => rfl
  | cons c new ih =>
    rw [List.map_cons, recordAll, List.foldl_cons, recordAll, List.foldl_cons,
      ← map_record keys merges]
    exact ih _

/-! ## Verdicts -/

/-- Whether a schema knows a column, and its type. -/
def standing (c : ColumnUse) : Option Bool × Option String :=
  (c.valid, c.type)

/-- The verdict and the type of a merged column come from one and the same use. -/
theorem standing_merge (c d : ColumnUse) :
    (c.merge d).standing = c.standing ∨ (c.merge d).standing = d.standing := by
  unfold merge
  split
  · exact .inr rfl
  · exact .inl rfl

theorem forall_standing_record {P : Option Bool × Option String → Prop} {c : ColumnUse}
    {cs : List ColumnUse} (hc : P c.standing) (hcs : ∀ d ∈ cs, P d.standing) :
    ∀ d ∈ c.record cs, P d.standing := by
  induction cs with
  | nil => simpa only [record, List.forall_mem_singleton] using hc
  | cons d ds ih =>
    obtain ⟨hd, hds⟩ := List.forall_mem_cons.1 hcs
    unfold record
    split
    · refine List.forall_mem_cons.2 ⟨?_, hds⟩
      rcases standing_merge d c with h | h
      · rwa [h]
      · rwa [h]
    · exact List.forall_mem_cons.2 ⟨hd, ih hds⟩

theorem forall_standing_recordAll {P : Option Bool × Option String → Prop}
    {cs new : List ColumnUse} (hcs : ∀ d ∈ cs, P d.standing) (hnew : ∀ c ∈ new, P c.standing) :
    ∀ d ∈ recordAll cs new, P d.standing := by
  induction new generalizing cs with
  | nil => exact hcs
  | cons c new ih =>
    obtain ⟨hc, hnew⟩ := List.forall_mem_cons.1 hnew
    exact ih (forall_standing_record hc hcs) hnew

/-- A column with a type is valid. -/
def TypedIfValid (c : ColumnUse) : Prop :=
  c.type.isSome → c.valid = some true

theorem TypedIfValid.record {c : ColumnUse} {cs : List ColumnUse} (hc : c.TypedIfValid)
    (hcs : ∀ d ∈ cs, d.TypedIfValid) : ∀ d ∈ c.record cs, d.TypedIfValid :=
  forall_standing_record (P := fun p ↦ p.2.isSome → p.1 = some true) hc hcs

theorem TypedIfValid.recordAll {cs new : List ColumnUse} (hcs : ∀ d ∈ cs, d.TypedIfValid)
    (hnew : ∀ c ∈ new, c.TypedIfValid) : ∀ d ∈ recordAll cs new, d.TypedIfValid :=
  forall_standing_recordAll (P := fun p ↦ p.2.isSome → p.1 = some true) hcs hnew

end ColumnUse

namespace TableUse

theorem map_identity_insert (tables : List TableUse) (t : TableUse) :
    (insert tables t).map identity = addNew (tables.map identity) t.identity := by
  have found :
      tables.any (·.identity == t.identity) = true ↔ t.identity ∈ tables.map identity := by
    simp only [List.any_eq_true, beq_iff_eq, List.mem_map]
  unfold insert addNew
  simp only [found]
  split
  · rfl
  · rw [List.map_append, List.map_singleton]

theorem map_identity_insertAll (tables new : List TableUse) :
    (new.foldl insert tables).map identity =
      (new.map identity).foldl addNew (tables.map identity) := by
  induction new generalizing tables with
  | nil => rfl
  | cons t new ih =>
    rw [List.foldl_cons, ih, map_identity_insert, List.map_cons, List.foldl_cons]

theorem nodup_insert {tables : List TableUse} {t : TableUse} (h : (tables.map identity).Nodup) :
    ((insert tables t).map identity).Nodup := by
  rw [map_identity_insert]
  exact nodup_addNew h

theorem nodup_insertAll {tables new : List TableUse} (h : (tables.map identity).Nodup) :
    ((new.foldl insert tables).map identity).Nodup := by
  rw [map_identity_insertAll]
  exact nodup_foldl_addNew h

end TableUse

namespace Footprint

theorem notices_note (f : Footprint) (n : Notice) : (f.note n).notices = addNew f.notices n := by
  simp only [note, List.contains_iff_mem, addNew]

/-- Nothing is listed twice, and only valid columns have types. -/
structure WellFormed (f : Footprint) : Prop where
  columns : (f.columns.map ColumnUse.foldedKey).Nodup
  tables : (f.tables.map TableUse.identity).Nodup
  notices : f.notices.Nodup
  typed : ∀ c ∈ f.columns, c.TypedIfValid

namespace WellFormed

theorem empty (kind : StatementKind) (text : String) : (Footprint.empty kind text).WellFormed :=
  ⟨List.nodup_nil, List.nodup_nil, List.nodup_nil, List.forall_mem_nil _⟩

variable {f : Footprint} (h : f.WellFormed)
include h

theorem record {c : ColumnUse} (hc : c.TypedIfValid) : (f.record c).WellFormed :=
  { h with
    columns := ColumnUse.nodup_record h.columns
    typed := hc.record h.typed }

theorem addTable (t : TableUse) : (f.addTable t).WellFormed :=
  { h with tables := TableUse.nodup_insert h.tables }

theorem note (n : Notice) : (f.note n).WellFormed := by
  refine { h with notices := ?_ }
  rw [notices_note]
  exact nodup_addNew h.notices

theorem absorb {child : Footprint} (hc : child.WellFormed) : (f.absorb child).WellFormed :=
  { h with
    tables := TableUse.nodup_insertAll h.tables
    columns := ColumnUse.nodup_recordAll h.columns
    typed := ColumnUse.TypedIfValid.recordAll h.typed hc.typed }

theorem dedup : f.dedup.WellFormed :=
  { h with
    columns := ColumnUse.nodup_recordAll List.nodup_nil
    typed := ColumnUse.TypedIfValid.recordAll (List.forall_mem_nil _) h.typed }

end WellFormed

end Footprint

end SqlFootprint
