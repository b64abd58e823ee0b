import SqlFootprint.Proofs.Extraction.Recording
import SqlFootprint.Proofs.Extraction.Stepwise
import SqlFootprint.Proofs.Footprint.Merging

/-!
# Expressions only append

The walk of an expression adds to what a scope holds, and takes nothing back: tables, conditions,
notices and nested footprints come after those of before, and a column that is recorded again keeps
its place, its key and its roles. Relations, joins and the footprints of `WITH` are left alone. So a
negation never cuts more than its operand has added, and every level that is entered is left again.
-/

namespace SqlFootprint

namespace ColumnUse

/-- The columns of before are where they were, under the same keys, with all of their roles. -/
def Keeps (before after : List ColumnUse) : Prop :=
  ∀ (i : Nat) (c : ColumnUse), before[i]? = some c →
    ∃ d : ColumnUse, after[i]? = some d ∧ d.key = c.key ∧
      ∀ role, c.roles.has role → d.roles.has role

namespace Keeps

variable {cs ds es : List ColumnUse}

@[refl] theorem refl (cs : List ColumnUse) : Keeps cs cs :=
  fun _ c hc ↦ ⟨c, hc, rfl, fun _ ↦ id⟩

theorem trans (h : Keeps cs ds) (k : Keeps ds es) : Keeps cs es := by
  intro i c hc
  obtain ⟨d, hd, key, roles⟩ := h i c hc
  obtain ⟨e, he, key', roles'⟩ := k i d hd
  exact ⟨e, he, key'.trans key, fun role ↦ roles' role ∘ roles role⟩

/-- A column merges with the one that has its key, or goes to the end. -/
theorem record (c : ColumnUse) (cs : List ColumnUse) : Keeps cs (c.record cs) := by
  induction cs with
  | nil => exact fun _ _ ↦ nofun
  | cons d ds ih =>
    unfold ColumnUse.record
    split
    · intro i e he
      cases i with
      | zero =>
        obtain rfl : d = e := Option.some.inj he
        refine ⟨d.merge c, rfl, rfl, fun role has ↦ ?_⟩
        rw [roles_merge, Roles.has_union, has, Bool.true_or]
      | succ i => exact refl _ (i + 1) e he
    · intro i e he
      cases i with
      | zero => exact refl _ 0 e he
      | succ i => exact ih i e he

theorem recordAll (cs new : List ColumnUse) : Keeps cs (recordAll cs new) := by
  induction new generalizing cs with
  | nil => exact refl cs
  | cons c new ih => exact (record c cs).trans (ih _)

end Keeps

end ColumnUse

namespace Walk

open ColumnUse (Keeps)

theorem effect_keeps : Effect fun _ f g ↦ Keeps f.columns g.columns where
  refl _ _ := .refl _
  trans := .trans
  record _ f _ _ _ _ := .record _ f.columns
  addTable _ _ _ := .refl _
  addJoin _ _ _ := .refl _
  addCondition _ _ _ := .refl _
  note _ _ _ := .refl _
  deeper _ := id
  query {_ f g} _ place _ _ _ _ := by
    have absorbed : Keeps f.columns (f.absorb g.dedup).columns := .recordAll _ _
    cases place with
    | withClause => exact absorbed
    | elsewhere => exact absorbed
  negated _ := id

end Walk

namespace Scope

/-- A scope before and after a walk that only appends. -/
structure Precedes (s t : Scope) : Prop where
  visible : t.visible = s.visible
  kind : t.footprint.kind = s.footprint.kind
  text : t.footprint.text = s.footprint.text
  joins : t.footprint.joins = s.footprint.joins
  ctes : t.footprint.ctes = s.footprint.ctes
  tables : s.footprint.tables <+: t.footprint.tables
  subqueries : s.footprint.subqueries <+: t.footprint.subqueries
  notices : s.footprint.notices <+: t.footprint.notices
  conditions : s.footprint.conditions <+: t.footprint.conditions
  columns : ColumnUse.Keeps s.footprint.columns t.footprint.columns

end Scope

namespace Sql

/-- The walk of an expression only appends. The steps that it is made up of never fail on a state
that counts the levels, and they end on the level where they began, with the same limit and the same
relations around. -/
theorem Expr.walk_appends (e : Expr) (m : Mode) :
    (∀ (r : Reach) (s : Scope), s.Precedes (e.walk m r s)) ∧
      ∃ steps : Walk.Steps, steps.walk = e.walk m ∧
        ∀ r s, steps.run ⟨r, s⟩ = some ⟨r, e.walk m r s⟩ := by
  have reading := e.walk_reading m
  obtain ⟨ts, composed⟩ := reading.composed
  refine ⟨fun r s ↦ ?_, ?_⟩
  · have grown := composed.extends r s
    have settled := reading.settled r s
    simp only [Footprint.settled, Prod.mk.injEq] at settled
    obtain ⟨kind, joins, ctes, text⟩ := settled
    exact
      { visible := reading.visible r s
        kind, text, joins, ctes
        tables := grown.tables
        subqueries := grown.subqueries
        notices := grown.notices
        conditions := grown.conditions
        columns := composed.effect Walk.effect_keeps r s }
  · obtain ⟨steps, same, performs⟩ := composed.exists_steps
    exact ⟨steps, same, fun r s ↦ performs ⟨r, s⟩⟩

end Sql

end SqlFootprint
