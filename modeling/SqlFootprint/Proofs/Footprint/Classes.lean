import Mathlib.Data.List.Induction
import Mathlib.Data.List.Perm.Basic
import SqlFootprint.Proofs.Footprint.Merging

/-!
# Columns under one key

Columns are recorded one after the other, and each merges with the first one under its key. What
comes of it can be told key by key: the uses under one key speak together, in the place of the first
of them and in its spelling, and uses under other keys have no part in it.

Spelling, alias and verdict are those that come first. Apart from these, the order of columns makes
no difference.
-/

namespace SqlFootprint

/-- Where all values are added, each stays in the place where it came first. -/
theorem foldl_addNew_nil {α : Type} [BEq α] [LawfulBEq α] [DecidableEq α] (new : List α) :
    new.foldl addNew [] = new.eraseDups := by
  induction new using List.reverseRecOn with
  | nil => rfl
  | append_singleton new a ih =>
    rw [List.foldl_append, List.foldl_cons, List.foldl_nil, ih, List.eraseDups_append,
      List.removeAll, addNew]
    simp only [List.mem_eraseDups, List.filter_singleton, List.elem_eq_mem]
    by_cases known : a ∈ new
    · rw [if_pos known, decide_eq_true known]
      exact (List.append_nil _).symm
    · rw [if_neg known, decide_eq_false known]
      rfl

namespace ColumnUse

variable {c d e : ColumnUse} {cs ds new : List ColumnUse}

/-! ## Recording by keys -/

theorem foldedKey_ne_iff : ¬d.hasKey c.key.1 c.key.2 ↔ d.foldedKey ≠ c.foldedKey :=
  not_congr hasKey_iff

/-- The first of some columns merges with all that come under its key, and the others are recorded
without these. -/
theorem recordAll_cons (c : ColumnUse) (cs new : List ColumnUse) :
    recordAll (c :: cs) new =
      (new.filter (·.foldedKey = c.foldedKey)).foldl merge c ::
        recordAll cs (new.filter (·.foldedKey ≠ c.foldedKey)) := by
  induction new generalizing c cs with
  | nil => rfl
  | cons d new ih =>
    rw [recordAll, List.foldl_cons, record]
    by_cases h : c.foldedKey = d.foldedKey
    · rw [if_pos (hasKey_iff.2 h)]
      have rest := ih (c.merge d) cs
      rw [foldedKey_merge] at rest
      rw [List.filter_cons_of_pos (by simp [h]), List.filter_cons_of_neg (by simp [h]),
        List.foldl_cons]
      exact rest
    · rw [if_neg (foldedKey_ne_iff.2 h)]
      have rest := ih c (d.record cs)
      rw [List.filter_cons_of_neg (by simp [Ne.symm h]),
        List.filter_cons_of_pos (by simp [Ne.symm h])]
      exact rest

/-- What is recorded under some keys does not depend on what comes under others. -/
theorem filter_record {p : ColumnUse → Bool} (hp : ∀ c d, c.foldedKey = d.foldedKey → p c = p d)
    (c : ColumnUse) (cs : List ColumnUse) :
    (c.record cs).filter p = if p c then c.record (cs.filter p) else cs.filter p := by
  induction cs with
  | nil => cases h : p c <;> simp [record, h]
  | cons d cs ih =>
    rw [record]
    by_cases same : d.hasKey c.key.1 c.key.2
    · have merged : p (d.merge c) = p d := hp _ _ rfl
      have alike : p c = p d := hp _ _ (hasKey_iff.1 same).symm
      rw [if_pos same, List.filter_cons, List.filter_cons, merged, alike]
      split
      · rw [record, if_pos same]
      · rfl
    · rw [if_neg same, List.filter_cons, List.filter_cons, ih]
      by_cases hd : p d
      · rw [if_pos hd, if_pos hd, record, if_neg same]
        split
        · rfl
        · rfl
      · rw [if_neg hd, if_neg hd]

theorem filter_recordAll {p : ColumnUse → Bool}
    (hp : ∀ c d, c.foldedKey = d.foldedKey → p c = p d) (cs new : List ColumnUse) :
    (recordAll cs new).filter p = recordAll (cs.filter p) (new.filter p) := by
  induction new generalizing cs with
  | nil => rfl
  | cons c new ih =>
    have rest : (recordAll cs (c :: new)).filter p =
        recordAll ((c.record cs).filter p) (new.filter p) := ih (c.record cs)
    rw [rest, filter_record hp]
    by_cases hc : p c
    · rw [if_pos hc, List.filter_cons_of_pos hc]
      rfl
    · rw [if_neg hc, List.filter_cons_of_neg hc]

/-- Uses of one key become one. -/
theorem recordAll_of_one_key (h : ∀ d ∈ ds, d.foldedKey = c.foldedKey) :
    recordAll [c] ds = [ds.foldl merge c] := by
  have all : ds.filter (·.foldedKey = c.foldedKey) = ds :=
    List.filter_eq_self.2 fun d hd ↦ decide_eq_true (h d hd)
  have none : ds.filter (·.foldedKey ≠ c.foldedKey) = [] :=
    List.filter_eq_nil_iff.2 fun d hd ↦ by simp [h d hd]
  rw [recordAll_cons, all, none]
  rfl

/-- The keys of recorded columns are those of all, each in the place where it came first. -/
theorem map_foldedKey_dedup (new : List ColumnUse) :
    (recordAll [] new).map foldedKey = (new.map foldedKey).eraseDups := by
  rw [map_foldedKey_recordAll]
  exact foldl_addNew_nil _

/-- A recorded column is what the uses of its key say together, for the first of them. -/
theorem exists_class_of_mem_dedup (hd : d ∈ recordAll [] new) :
    ∃ c rest, new.filter (·.foldedKey = d.foldedKey) = c :: rest ∧ d = c.together (c :: rest) := by
  have found := filter_recordAll (p := (·.foldedKey = d.foldedKey))
    (fun _ _ same ↦ by rw [same]) [] new
  have listed : d ∈ (recordAll [] new).filter (·.foldedKey = d.foldedKey) :=
    List.mem_filter.2 ⟨hd, decide_eq_true rfl⟩
  rw [found] at listed
  cases h : new.filter (·.foldedKey = d.foldedKey) with
  | nil =>
    rw [h] at listed
    cases listed
  | cons c rest =>
    have keys : ∀ e ∈ c :: rest, e.foldedKey = d.foldedKey := by
      rw [← h]
      exact fun e he ↦ of_decide_eq_true (List.mem_filter.1 he).2
    obtain ⟨first, others⟩ := List.forall_mem_cons.1 keys
    have one : recordAll [] (c :: rest) = [rest.foldl merge c] :=
      recordAll_of_one_key fun e he ↦ (others e he).trans first.symm
    rw [h, List.filter_nil, one, List.mem_singleton] at listed
    exact ⟨c, rest, rfl, listed.trans (foldl_merge c rest)⟩

/-! ## Recording again -/

theorem record_of_new (h : c.foldedKey ∉ cs.map foldedKey) : c.record cs = cs ++ [c] := by
  induction cs with
  | nil => rfl
  | cons d cs ih =>
    rw [List.map_cons, List.mem_cons, not_or] at h
    rw [record, if_neg (foldedKey_ne_iff.2 (Ne.symm h.1)), ih h.2, List.cons_append]

/-- Columns of different keys are recorded as they are. -/
theorem recordAll_of_nodup (h : ((cs ++ new).map foldedKey).Nodup) :
    recordAll cs new = cs ++ new := by
  induction new generalizing cs with
  | nil => exact (List.append_nil cs).symm
  | cons c new ih =>
    rw [List.append_cons] at h ⊢
    have apart : c.foldedKey ∉ cs.map foldedKey := by
      rw [List.map_append, List.map_append] at h
      have front := h.of_append_left
      rw [List.nodup_append] at front
      exact fun there ↦ front.2.2 _ there _ (List.mem_singleton_self _) rfl
    rw [← ih h, ← record_of_new apart]
    rfl

/-- Uses of one key are merged with a column as what they say together is. -/
theorem foldl_merge_dedup (h : ∀ d ∈ ds, d.foldedKey = c.foldedKey) :
    (recordAll [] ds).foldl merge c = ds.foldl merge c := by
  cases ds with
  | nil => rfl
  | cons d ds =>
    obtain ⟨first, others⟩ := List.forall_mem_cons.1 h
    have one : recordAll [] (d :: ds) = [ds.foldl merge d] :=
      recordAll_of_one_key fun e he ↦ (others e he).trans first.symm
    have : Std.Associative merge := ⟨merge_assoc⟩
    rw [one, List.foldl_cons, List.foldl_nil, List.foldl_cons, List.foldl_assoc]

/-- Columns may be merged among themselves before they are recorded. -/
theorem recordAll_dedup (cs new : List ColumnUse) :
    recordAll cs (recordAll [] new) = recordAll cs new := by
  induction cs generalizing new with
  | nil => exact recordAll_of_nodup (nodup_recordAll List.nodup_nil)
  | cons c cs ih =>
    have apart (p : ColumnUse → Bool) (hp : ∀ c d, c.foldedKey = d.foldedKey → p c = p d) :
        (recordAll [] new).filter p = recordAll [] (new.filter p) := filter_recordAll hp [] new
    rw [recordAll_cons, recordAll_cons, apart _ fun _ _ same ↦ by rw [same],
      apart _ fun _ _ same ↦ by rw [same], ih, foldl_merge_dedup]
    exact fun d hd ↦ of_decide_eq_true (List.mem_filter.1 hd).2

theorem recordAll_append (cs new more : List ColumnUse) :
    recordAll cs (new ++ more) = recordAll (recordAll cs new) more :=
  List.foldl_append

/-- A column that has been recorded makes no difference when it comes again. -/
theorem record_record_self (c : ColumnUse) (cs : List ColumnUse) :
    c.record (c.record cs) = c.record cs := by
  induction cs with
  | nil => rw [record, record, if_pos (hasKey_iff.2 rfl), merge_self]
  | cons d cs ih =>
    rw [record]
    by_cases same : d.hasKey c.key.1 c.key.2
    · have merged : (d.merge c).hasKey c.key.1 c.key.2 := same
      rw [if_pos same, record, if_pos merged, merge_merge_self]
    · rw [if_neg same, record, if_neg same, ih]

/-- Nor does it make any after others. -/
theorem record_of_record_eq (h : c.record cs = cs) (d : ColumnUse) :
    c.record (d.record cs) = d.record cs := by
  induction cs with
  | nil => cases h
  | cons e cs ih =>
    rw [record] at h
    by_cases same : e.hasKey c.key.1 c.key.2
    · rw [if_pos same] at h
      have held : e.merge c = e := (List.cons.inj h).1
      rw [record]
      split
      · have merged : (e.merge d).hasKey c.key.1 c.key.2 := same
        rw [record, if_pos merged, merge_of_merge_eq held]
      · rw [record, if_pos same, held]
    · rw [if_neg same] at h
      have rest : c.record cs = cs := (List.cons.inj h).2
      rw [record]
      split
      · have merged : ¬(e.merge d).hasKey c.key.1 c.key.2 := same
        rw [record, if_neg merged, rest]
      · rw [record, if_neg same, ih rest]

theorem record_recordAll_of_record_eq (h : c.record cs = cs) (new : List ColumnUse) :
    c.record (recordAll cs new) = recordAll cs new := by
  induction new generalizing cs with
  | nil => exact h
  | cons d new ih => exact ih (record_of_record_eq h d)

/-- What makes no difference one by one makes none altogether. -/
theorem recordAll_of_record_eq (h : ∀ c ∈ new, c.record cs = cs) : recordAll cs new = cs := by
  induction new with
  | nil => rfl
  | cons c new ih =>
    obtain ⟨hc, hnew⟩ := List.forall_mem_cons.1 h
    rw [recordAll, List.foldl_cons, hc]
    exact ih hnew

/-- Columns that have been recorded make no difference when they come again. -/
theorem recordAll_recordAll_self (cs new : List ColumnUse) :
    recordAll (recordAll cs new) new = recordAll cs new := by
  refine recordAll_of_record_eq fun c hc ↦ ?_
  obtain ⟨before, after, rfl⟩ := List.append_of_mem hc
  rw [recordAll_append]
  exact record_recordAll_of_record_eq (record_record_self c _) after

/-! ## The order of columns -/

/-- What is said of a column apart from how it is written: its key, its roles and its standing. -/
def told (c : ColumnUse) : (String × String) × Roles × (Option Bool × Option String) :=
  (c.foldedKey, c.roles, c.standing)

theorem has_iff_playing_dedup (hc : c ∈ recordAll [] new) (role : Role) :
    c.roles.has role ↔ Playing new role c.foldedKey := by
  have single : ((recordAll [] new).map foldedKey).Nodup := nodup_recordAll List.nodup_nil
  have there : Playing (recordAll [] new) role c.foldedKey ↔ Playing new role c.foldedKey :=
    playing_recordAll.trans (or_iff_right not_playing_nil)
  rw [← there]
  constructor
  · exact fun has ↦ ⟨c, hc, rfl, has⟩
  · rintro ⟨d, hd, same, has⟩
    rwa [List.inj_on_of_nodup_map single hd hc same] at has

theorem mem_told_dedup (fresh : ∀ c ∈ new, c.standing = (none, none))
    {t : (String × String) × Roles × (Option Bool × Option String)} :
    t ∈ (recordAll [] new).map told ↔
      t.1 ∈ new.map foldedKey ∧ (∀ role, t.2.1.has role ↔ Playing new role t.1) ∧
        t.2.2 = (none, none) := by
  have keys : t.1 ∈ (recordAll [] new).map foldedKey ↔ t.1 ∈ new.map foldedKey :=
    mem_foldedKey_recordAll.trans (or_iff_right List.not_mem_nil)
  have standing : ∀ c ∈ recordAll [] new, c.standing = (none, none) :=
    forall_standing_recordAll (P := (· = (none, none))) (List.forall_mem_nil _) fresh
  constructor
  · intro h
    obtain ⟨c, hc, rfl⟩ := List.mem_map.1 h
    exact ⟨keys.1 (List.mem_map_of_mem hc), has_iff_playing_dedup hc, standing c hc⟩
  · rintro ⟨key, roles, open_⟩
    obtain ⟨c, hc, same⟩ := List.mem_map.1 (keys.2 key)
    refine List.mem_map.2 ⟨c, hc, Prod.ext same (Prod.ext (Roles.ext_has fun role ↦ ?_) ?_)⟩
    · rw [roles, ← same]
      exact has_iff_playing_dedup hc role
    · exact (standing c hc).trans open_.symm

/-- The order in which columns come makes no difference to what is said of them, as long as a schema
has not been asked for them. -/
theorem perm_told_recordAll (perm : new.Perm ds) (fresh : ∀ c ∈ new, c.standing = (none, none)) :
    ((recordAll cs new).map told).Perm ((recordAll cs ds).map told) := by
  induction cs generalizing new ds with
  | nil =>
    have single (l : List ColumnUse) : ((recordAll [] l).map told).Nodup := by
      refine List.Nodup.of_map Prod.fst ?_
      rw [List.map_map]
      exact nodup_recordAll List.nodup_nil
    refine (List.perm_ext_iff_of_nodup (single _) (single _)).2 fun t ↦ ?_
    have playing (role : Role) : Playing new role t.1 ↔ Playing ds role t.1 := by
      simp only [Playing, perm.mem_iff]
    rw [mem_told_dedup fresh, mem_told_dedup fun c hc ↦ fresh c (perm.mem_iff.2 hc),
      (perm.map foldedKey).mem_iff]
    simp only [playing]
  | cons c cs ih =>
    have still {l : List ColumnUse} (hl : l.Perm new) (p : ColumnUse → Bool) :
        ∀ d ∈ l.filter p, d.standing = (none, none) :=
      fun d hd ↦ fresh d (hl.mem_iff.1 (List.mem_of_mem_filter hd))
    have head : told ((new.filter (·.foldedKey = c.foldedKey)).foldl merge c) =
        told ((ds.filter (·.foldedKey = c.foldedKey)).foldl merge c) := by
      refine Prod.ext ?_ (Prod.ext (Roles.ext_has fun role ↦ ?_) ?_)
      · exact foldedKey_foldl_merge.trans foldedKey_foldl_merge.symm
      · rw [told, told, has_foldl_merge, has_foldl_merge, ((perm.filter _).cons c).any_eq]
      · rw [told, told, standing_foldl_merge_of_unjudged (still (.refl _) _),
          standing_foldl_merge_of_unjudged (still perm.symm _)]
    rw [recordAll_cons, recordAll_cons, List.map_cons, List.map_cons, head]
    exact (ih (perm.filter _) (still (.refl _) _)).cons _

theorem foldedKey_unjudged (c : ColumnUse) : c.unjudged.foldedKey = c.foldedKey := rfl

theorem unjudged_merge (c d : ColumnUse) :
    (c.merge d).unjudged = c.unjudged.merge d.unjudged := rfl

/-- Verdicts apart, the order makes no difference at all. -/
theorem perm_roles_recordAll (perm : new.Perm ds) :
    ((recordAll cs new).map fun c ↦ (c.foldedKey, c.roles)).Perm
      ((recordAll cs ds).map fun c ↦ (c.foldedKey, c.roles)) := by
  have blank (l : List ColumnUse) : ((recordAll cs l).map fun c ↦ (c.foldedKey, c.roles)) =
      ((recordAll (cs.map unjudged) (l.map unjudged)).map told).map fun t ↦ (t.1, t.2.1) := by
    have mapped : (recordAll cs l).map unjudged = recordAll (cs.map unjudged) (l.map unjudged) :=
      map_recordAll (fun _ _ ↦ by rw [foldedKey_unjudged, foldedKey_unjudged]) unjudged_merge cs l
    rw [← mapped, List.map_map, List.map_map]
    rfl
  rw [blank, blank]
  refine (perm_told_recordAll (perm.map _) fun c hc ↦ ?_).map _
  obtain ⟨d, -, rfl⟩ := List.mem_map.1 hc
  rfl

end ColumnUse

namespace TableUse

/-- Tables that have been entered make no difference when they come again. -/
theorem insertAll_of_mem {tables new : List TableUse}
    (h : ∀ t ∈ new, t.identity ∈ tables.map identity) : new.foldl insert tables = tables := by
  induction new with
  | nil => rfl
  | cons t new ih =>
    obtain ⟨ht, hnew⟩ := List.forall_mem_cons.1 h
    obtain ⟨u, hu, same⟩ := List.mem_map.1 ht
    have known : tables.any (·.identity == t.identity) :=
      List.any_eq_true.2 ⟨u, hu, beq_iff_eq.2 same⟩
    rw [List.foldl_cons, insert, if_pos known, ih hnew]

end TableUse

namespace Footprint

variable {f child : Footprint}

/-- Taking over a nested footprint a second time makes no difference. -/
theorem absorb_absorb_self (f child : Footprint) :
    (f.absorb child).absorb child = f.absorb child := by
  have tables : child.tables.foldl TableUse.insert (child.tables.foldl TableUse.insert f.tables) =
      child.tables.foldl TableUse.insert f.tables :=
    TableUse.insertAll_of_mem fun t ht ↦
      TableUse.mem_identity_insertAll.2 (.inr (List.mem_map_of_mem ht))
  simp only [absorb, tables, ColumnUse.recordAll_recordAll_self]

theorem columns_foldl_absorb (f : Footprint) (children : List Footprint) :
    (children.foldl absorb f).columns =
      ColumnUse.recordAll f.columns (children.flatMap columns) := by
  induction children generalizing f with
  | nil => rfl
  | cons child children ih =>
    rw [List.foldl_cons, ih, List.flatMap_cons, ColumnUse.recordAll_append]
    rfl

/-- Merging columns leaves one for each key, in the order in which the keys come, and it is what the
uses of its key say together. So columns may be merged in parts, a nested footprint that is taken
over again makes no difference, and the order of nested footprints makes none to keys and roles. -/
theorem columns_merge_by_key :
    (∀ f : Footprint, f.dedup.columns.map ColumnUse.foldedKey =
        (f.columns.map ColumnUse.foldedKey).eraseDups ∧
      ∀ d ∈ f.dedup.columns, ∃ c rest,
        f.columns.filter (·.foldedKey = d.foldedKey) = c :: rest ∧ d = c.together (c :: rest)) ∧
    (∀ (f : Footprint) (xs ys : List ColumnUse),
      ({ f with columns := xs ++ ys } : Footprint).dedup =
        ({ f with
          columns := ({ f with columns := xs } : Footprint).dedup.columns ++
            ({ f with columns := ys } : Footprint).dedup.columns } : Footprint).dedup) ∧
    (∀ f child : Footprint, (f.absorb child).absorb child = f.absorb child) ∧
    ∀ (f : Footprint) (children children' : List Footprint), children.Perm children' →
      ((children.foldl absorb f).columns.map fun c ↦ (c.foldedKey, c.roles)).Perm
        ((children'.foldl absorb f).columns.map fun c ↦ (c.foldedKey, c.roles)) := by
  refine ⟨?_, ?_, absorb_absorb_self, ?_⟩
  · exact fun f ↦ ⟨ColumnUse.map_foldedKey_dedup f.columns,
      fun _ ↦ ColumnUse.exists_class_of_mem_dedup⟩
  · intro f xs ys
    simp only [dedup, ColumnUse.recordAll_append, ColumnUse.recordAll_dedup]
  · intro f children children' perm
    rw [columns_foldl_absorb, columns_foldl_absorb]
    exact ColumnUse.perm_roles_recordAll (perm.flatMap_right columns)

/-- Of two aliases of `t.id` in nested footprints, the one that comes first is kept. -/
theorem columns_merge_by_key_sample :
    let f := empty .select ""
    let p : Footprint :=
      { empty .cte "" with columns := [⟨"id", "t", "k", .ofRole .selected, none, none⟩] }
    let q : Footprint :=
      { empty .cte "" with columns := [⟨"id", "t", "m", .ofRole .filtered, none, none⟩] }
    [p, q].Perm [q, p] ∧
      (([p, q].foldl absorb f).columns.map fun c ↦ (c.foldedKey, c.roles)).Perm
        (([q, p].foldl absorb f).columns.map fun c ↦ (c.foldedKey, c.roles)) ∧
      ([p, q].foldl absorb f).columns = [⟨"id", "t", "k", ⟨true, false, true, false⟩, none, none⟩] ∧
      ([q, p].foldl absorb f).columns =
        [⟨"id", "t", "m", ⟨true, false, true, false⟩, none, none⟩] := by
  intro f p q
  have swap : [p, q].Perm [q, p] := .swap q p []
  have same := columns_merge_by_key.2.2.2 f [p, q] [q, p] swap
  refine ⟨swap, same, ?_, ?_⟩
  · decide +kernel
  · decide +kernel

end Footprint

end SqlFootprint
