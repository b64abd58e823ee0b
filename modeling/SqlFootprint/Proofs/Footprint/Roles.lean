import SqlFootprint.Proofs.Footprint.WellFormed

/-!
# The roles of columns

What a footprint says of a column is which roles are played under its key. Recording a column adds
its roles under its key and changes nothing else, so that neither the order in which columns come
nor the footprint that they came from makes a difference.
-/

namespace SqlFootprint

namespace Roles

/-- Whether a role is among some roles. A mere mention leaves no mark, so it always is. -/
def has (r : Roles) : Role → Bool
  | .selected => r.selected
  | .joined => r.joined
  | .filtered => r.filtered
  | .modified => r.modified
  | .mentioned => true

theorem has_union (r s : Roles) (role : Role) :
    (r.union s).has role = (r.has role || s.has role) := by
  cases role <;> rfl

theorem has_ofRole {role other : Role} :
    (ofRole role).has other ↔ other = role ∨ other = .mentioned := by
  cases role <;> cases other <;> decide

end Roles

namespace ColumnUse

/-- Among some columns, one under a key plays a role. -/
def Playing (columns : List ColumnUse) (role : Role) (key : String × String) : Prop :=
  ∃ c ∈ columns, c.foldedKey = key ∧ c.roles.has role

variable {role : Role} {key : String × String}

theorem not_playing_nil : ¬Playing [] role key := by
  rintro ⟨c, hc, -⟩
  cases hc

theorem playing_cons {c : ColumnUse} {cs : List ColumnUse} :
    Playing (c :: cs) role key ↔ (c.foldedKey = key ∧ c.roles.has role) ∨ Playing cs role key := by
  simp only [Playing, List.mem_cons, or_and_right, exists_or, exists_eq_left]

theorem playing_append {cs ds : List ColumnUse} :
    Playing (cs ++ ds) role key ↔ Playing cs role key ∨ Playing ds role key := by
  simp only [Playing, List.mem_append, or_and_right, exists_or]

/-- A recorded column adds its roles to those under its key. -/
theorem playing_record {c : ColumnUse} {cs : List ColumnUse} :
    Playing (c.record cs) role key ↔
      Playing cs role key ∨ (c.foldedKey = key ∧ c.roles.has role) := by
  induction cs with
  | nil => rw [record, playing_cons, or_comm]
  | cons d ds ih =>
    unfold record
    split
    · have same : d.foldedKey = c.foldedKey := hasKey_iff.1 ‹_›
      have merged : (d.merge c).roles.has role = (d.roles.has role || c.roles.has role) :=
        Roles.has_union _ _ _
      rw [playing_cons, playing_cons, foldedKey_merge, merged, same, Bool.or_eq_true]
      tauto
    · rw [playing_cons, ih, playing_cons, or_assoc]

theorem playing_recordAll {cs new : List ColumnUse} :
    Playing (recordAll cs new) role key ↔ Playing cs role key ∨ Playing new role key := by
  induction new generalizing cs with
  | nil => exact (or_iff_left not_playing_nil).symm
  | cons c new ih =>
    calc Playing (recordAll cs (c :: new)) role key
        ↔ Playing (c.record cs) role key ∨ Playing new role key := ih
      _ ↔ Playing cs role key ∨ Playing (c :: new) role key := by
          rw [playing_record, playing_cons, or_assoc]

end ColumnUse

namespace TableUse

theorem mem_identity_insert {tables : List TableUse} {t : TableUse} {id : String × Option String} :
    id ∈ (insert tables t).map identity ↔ id ∈ tables.map identity ∨ id = t.identity := by
  rw [map_identity_insert]
  exact mem_addNew

theorem mem_identity_insertAll {tables new : List TableUse} {id : String × Option String} :
    id ∈ (new.foldl insert tables).map identity ↔
      id ∈ tables.map identity ∨ id ∈ new.map identity := by
  rw [map_identity_insertAll]
  exact mem_foldl_addNew

end TableUse

namespace Footprint

/-- In a footprint, the column under a key plays a role. -/
def Plays (f : Footprint) (role : Role) (key : String × String) : Prop :=
  ColumnUse.Playing f.columns role key

variable {f child : Footprint} {role : Role} {key : String × String}

theorem plays_record {c : ColumnUse} :
    (f.record c).Plays role key ↔ f.Plays role key ∨ (c.foldedKey = key ∧ c.roles.has role) :=
  ColumnUse.playing_record

/-- A column that is recorded in another role makes no difference. -/
theorem plays_record_of_ne {name : String} {table aliasName : Option String} {other : Role}
    (hne : other ≠ role) (mark : role ≠ .mentioned) :
    (f.record { name, table, aliasName, roles := .ofRole other }).Plays role key ↔
      f.Plays role key := by
  rw [plays_record, or_iff_left]
  rintro ⟨-, has⟩
  rcases Roles.has_ofRole.1 has with h | h
  · exact hne h.symm
  · exact mark h

theorem plays_dedup : f.dedup.Plays role key ↔ f.Plays role key :=
  ColumnUse.playing_recordAll.trans (or_iff_right ColumnUse.not_playing_nil)

/-- What is taken over from a nested footprint are the roles of its columns. -/
theorem plays_absorb :
    (f.absorb child).Plays role key ↔ f.Plays role key ∨ child.Plays role key :=
  ColumnUse.playing_recordAll

/-- The roles that are played under the key of a column are its own. -/
theorem WellFormed.has_of_plays (h : f.WellFormed) {c : ColumnUse} (hc : c ∈ f.columns)
    (plays : f.Plays role c.foldedKey) : c.roles.has role := by
  obtain ⟨d, hd, same, has⟩ := plays
  rwa [List.inj_on_of_nodup_map h.columns hd hc same] at has

end Footprint

end SqlFootprint
