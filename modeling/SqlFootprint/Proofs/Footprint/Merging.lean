import SqlFootprint.Proofs.Footprint.Roles

/-!
# Merging columns

Merging joins the roles of two uses, and takes of their aliases and of their verdicts the first one
that tells anything. So it is associative, and a use that comes again adds nothing; but it is not
commutative. Uses that are merged one after the other speak together: what is said by them can be
told without the order of the merges.
-/

namespace SqlFootprint

/-! ## The first one that tells -/

section Prefer

variable {α : Type} (p : α → Bool) (a b c : α)

/-- The first of two, unless only the second one tells. -/
def prefer : α :=
  if !p a && p b then b else a

theorem prefer_assoc : prefer p (prefer p a b) c = prefer p a (prefer p b c) := by
  unfold prefer
  cases ha : p a <;> cases hb : p b <;> cases hc : p c <;> simp [ha, hb, hc]

/-- What came first has been asked already. -/
theorem prefer_prefer_left : prefer p (prefer p a b) a = prefer p a b := by
  unfold prefer
  cases ha : p a <;> cases hb : p b <;> simp [ha, hb]

theorem prefer_self : prefer p a a = a := ite_self a

theorem prefer_of_not_tells {b : α} (h : ¬p b) : prefer p a b = a := by
  rw [prefer, Bool.eq_false_iff.2 h, Bool.and_false]
  rfl

/-- Of several, the first one that tells is preferred, or else the first one. -/
theorem foldl_prefer (bs : List α) :
    bs.foldl (prefer p) a = ((a :: bs).find? p).getD a := by
  induction bs generalizing a with
  | nil => cases ha : p a <;> simp [ha]
  | cons b bs ih =>
    rw [List.foldl_cons, ih]
    unfold prefer
    cases ha : p a <;> cases hb : p b <;> simp [ha, hb]

theorem foldl_prefer_of_not_tells {bs : List α} (h : ∀ b ∈ bs, ¬p b) :
    bs.foldl (prefer p) a = a := by
  induction bs with
  | nil => rfl
  | cons b bs ih =>
    obtain ⟨hb, hbs⟩ := List.forall_mem_cons.1 h
    rw [List.foldl_cons, prefer_of_not_tells p a hb, ih hbs]

end Prefer

namespace Roles

theorem union_assoc (r s t : Roles) : (r.union s).union t = r.union (s.union t) := by
  simp only [union, Bool.or_assoc]

theorem union_self (r : Roles) : r.union r = r := by
  simp only [union, Bool.or_self]

theorem union_right_comm (r s t : Roles) : (r.union s).union t = (r.union t).union s := by
  simp only [union, Bool.or_right_comm]

/-- Roles are told apart by what is among them. -/
theorem ext_has {r s : Roles} (h : ∀ role, r.has role ↔ s.has role) : r = s := by
  have flag (role : Role) : r.has role = s.has role := Bool.eq_iff_iff.2 (h role)
  obtain ⟨a, b, c, d⟩ := r
  obtain ⟨a', b', c', d'⟩ := s
  obtain rfl : a = a' := flag .selected
  obtain rfl : b = b' := flag .joined
  obtain rfl : c = c' := flag .filtered
  obtain rfl : d = d' := flag .modified
  rfl

end Roles

namespace ColumnUse

variable {c d e : ColumnUse} {cs ds new : List ColumnUse}

/-! ## The laws of merging -/

/-- An alias tells if it is not empty. -/
def aliasTells (aliasName : Option String) : Bool :=
  aliasName.getD "" != ""

/-- A standing tells if there is a verdict. -/
def standingTells (p : Option Bool × Option String) : Bool :=
  p.1.isSome

theorem ext_parts (name : c.name = d.name) (table : c.table = d.table)
    (aliasName : c.aliasName = d.aliasName) (roles : c.roles = d.roles)
    (standing : c.standing = d.standing) : c = d := by
  obtain ⟨valid, type⟩ := Prod.mk.inj standing
  cases c
  cases d
  simp_all only

@[simp] theorem name_merge (c d : ColumnUse) : (c.merge d).name = c.name := rfl

@[simp] theorem table_merge (c d : ColumnUse) : (c.merge d).table = c.table := rfl

@[simp] theorem roles_merge (c d : ColumnUse) : (c.merge d).roles = c.roles.union d.roles := rfl

theorem mergeAlias_eq (first second : Option String) :
    mergeAlias first second = prefer aliasTells first second := by
  unfold mergeAlias prefer aliasTells
  by_cases h : first.getD "" = ""
  · cases second with
    | none => simp [h]
    | some a => by_cases ha : a = "" <;> simp [h, ha, Option.filter]
  · simp [h]

@[simp] theorem aliasName_merge (c d : ColumnUse) :
    (c.merge d).aliasName = prefer aliasTells c.aliasName d.aliasName :=
  mergeAlias_eq _ _

@[simp] theorem standing_merge_eq (c d : ColumnUse) :
    (c.merge d).standing = prefer standingTells c.standing d.standing := by
  unfold merge prefer standing standingTells
  cases c.valid <;> cases d.valid <;> rfl

theorem merge_assoc (c d e : ColumnUse) : (c.merge d).merge e = c.merge (d.merge e) := by
  apply ext_parts
  · rfl
  · rfl
  · simp only [aliasName_merge, prefer_assoc]
  · exact Roles.union_assoc _ _ _
  · simp only [standing_merge_eq, prefer_assoc]

theorem merge_self (c : ColumnUse) : c.merge c = c := by
  apply ext_parts
  · rfl
  · rfl
  · rw [aliasName_merge, prefer_self]
  · exact Roles.union_self _
  · rw [standing_merge_eq, prefer_self]

/-- What came first has its say already. -/
theorem merge_merge_left (c d : ColumnUse) : (c.merge d).merge c = c.merge d := by
  apply ext_parts
  · rfl
  · rfl
  · simp only [aliasName_merge, prefer_prefer_left]
  · simp only [roles_merge, Roles.union_right_comm, Roles.union_self]
  · simp only [standing_merge_eq, prefer_prefer_left]

/-- A use that has been merged adds nothing when it comes again. -/
theorem merge_merge_self (c d : ColumnUse) : (c.merge d).merge d = c.merge d := by
  rw [merge_assoc, merge_self]

/-- Nor does it add anything after others. -/
theorem merge_of_merge_eq (h : c.merge d = c) (e : ColumnUse) :
    (c.merge e).merge d = c.merge e :=
  calc (c.merge e).merge d
      = ((c.merge d).merge e).merge d := by rw [h]
    _ = c.merge ((d.merge e).merge d) := by rw [merge_assoc, merge_assoc, merge_assoc]
    _ = (c.merge d).merge e := by rw [merge_merge_left, merge_assoc]
    _ = c.merge e := by rw [h]

/-! ## Uses that speak together -/

/-- A use for which several speak: it has all of their roles, and of their aliases and verdicts the
first one each, not counting empty aliases. If there is none, it keeps its own. -/
def together (c : ColumnUse) (uses : List ColumnUse) : ColumnUse :=
  let named := (uses.find? fun d ↦ d.aliasName.getD "" != "").getD c
  let judged := (uses.find? fun d ↦ d.valid.isSome).getD c
  { c with
    aliasName := named.aliasName
    roles :=
      { selected := uses.any (·.roles.selected)
        joined := uses.any (·.roles.joined)
        filtered := uses.any (·.roles.filtered)
        modified := uses.any (·.roles.modified) }
    valid := judged.valid
    type := judged.type }

theorem name_foldl_merge : (ds.foldl merge c).name = c.name := by
  induction ds generalizing c with
  | nil => rfl
  | cons d ds ih => exact ih

theorem table_foldl_merge : (ds.foldl merge c).table = c.table := by
  induction ds generalizing c with
  | nil => rfl
  | cons d ds ih => exact ih

@[simp] theorem foldedKey_foldl_merge : (ds.foldl merge c).foldedKey = c.foldedKey := by
  rw [foldedKey, foldedKey, key, key, name_foldl_merge, table_foldl_merge]

theorem aliasName_foldl_merge :
    (ds.foldl merge c).aliasName = (ds.map aliasName).foldl (prefer aliasTells) c.aliasName := by
  induction ds generalizing c with
  | nil => rfl
  | cons d ds ih => rw [List.foldl_cons, ih, aliasName_merge, List.map_cons, List.foldl_cons]

theorem standing_foldl_merge :
    (ds.foldl merge c).standing = (ds.map standing).foldl (prefer standingTells) c.standing := by
  induction ds generalizing c with
  | nil => rfl
  | cons d ds ih => rw [List.foldl_cons, ih, standing_merge_eq, List.map_cons, List.foldl_cons]

theorem standing_foldl_merge_of_unjudged (fresh : ∀ d ∈ ds, d.standing = (none, none)) :
    (ds.foldl merge c).standing = c.standing := by
  rw [standing_foldl_merge]
  refine foldl_prefer_of_not_tells _ _ (List.forall_mem_map.2 fun d hd ↦ ?_)
  rw [fresh d hd]
  exact Bool.false_ne_true

theorem has_foldl_merge (role : Role) :
    (ds.foldl merge c).roles.has role = (c :: ds).any (·.roles.has role) := by
  induction ds generalizing c with
  | nil => exact (Bool.or_false _).symm
  | cons d ds ih =>
    rw [List.foldl_cons, ih, List.any_cons, List.any_cons, List.any_cons, roles_merge,
      Roles.has_union, Bool.or_assoc]

/-- Merging uses one after the other makes them speak together. -/
theorem foldl_merge (c : ColumnUse) (ds : List ColumnUse) :
    ds.foldl merge c = c.together (c :: ds) := by
  have standing : (ds.foldl merge c).standing =
      (((c :: ds).find? fun d ↦ d.valid.isSome).getD c).standing := by
    rw [standing_foldl_merge, foldl_prefer, ← List.map_cons, List.find?_map, Option.getD_map]
    rfl
  apply ext_parts
  · exact name_foldl_merge
  · exact table_foldl_merge
  · rw [aliasName_foldl_merge, foldl_prefer, ← List.map_cons, List.find?_map, Option.getD_map]
    rfl
  · refine Roles.ext_has fun role ↦ ?_
    rw [has_foldl_merge]
    cases role with
    | mentioned => simp [Roles.has]
    | selected | joined | filtered | modified => rfl
  · exact standing

end ColumnUse

end SqlFootprint
