import SqlFootprint.Proofs.Extraction.Composed

/-!
# What walks do to a footprint

Much of what there is to say of a walk is how the footprint after it relates to the one before. If a
relation allows the few changes that walks are made of, it allows whole walks: `Composed.effect`.
What one change keeps is thereby kept by all statements, with one short proof for each change.
-/

namespace SqlFootprint.Walk

/-- A relation of the footprints before and after a walk that allows whatever walks do. -/
structure Effect (R : Reach → Footprint → Footprint → Prop) : Prop where
  refl (r : Reach) (f : Footprint) : R r f f
  trans {r : Reach} {f g h : Footprint} : R r f g → R r g h → R r f h
  record (r : Reach) (f : Footprint) (name : String) (table aliasName : Option String)
    (role : Role) : R r f (f.record { name, table, aliasName, roles := .ofRole role })
  addTable (r : Reach) (f : Footprint) (t : TableUse) : R r f (f.addTable t)
  addJoin (r : Reach) (f : Footprint) (j : JoinEdge) : R r f (f.addJoin j)
  addCondition (r : Reach) (f : Footprint) (text : String) : R r f (f.addCondition text)
  note (r : Reach) (f : Footprint) (n : Notice) : R r f (f.note n)
  deeper {r : Reach} {f g : Footprint} :
    r.depth < r.limit → R { r with depth := r.depth + 1 } f g → R r f g
  /-- A nested query has `g`, merged, for its footprint. -/
  query {r : Reach} {f g : Footprint} (outer : List TableUse) (place : Place) (q : Sql.Query) :
    r.depth < r.limit → g.dedup = q.footprint place.kind ⟨outer, r.depth, r.limit⟩ →
    R ⟨outer, r.depth + 1, r.limit⟩ (.empty place.kind q.render) g →
    R r f (place.keep (f.absorb g.dedup) g.dedup)
  /-- Of the conditions, only those that were there before are sure to stay. -/
  negated {r : Reach} {f g : Footprint} (added : List String) : R r f g →
    R r f { g with conditions := g.conditions.take f.conditions.length ++ added }

variable {R : Reach → Footprint → Footprint → Prop}

theorem Effect.recordEdge (effect : Effect R) (r : Reach) (s : Scope) (e : JoinEdge) :
    R r s.footprint (Sql.recordEdge s e).footprint := by
  refine effect.trans (effect.record r _ e.leftColumn (some e.leftTable) none .joined) ?_
  refine effect.trans (effect.record r _ e.rightColumn (some e.rightTable) none .joined) ?_
  exact effect.addJoin r _ e

/-- What all basic changes are allowed to do, every walk does. -/
theorem Composed.effect (effect : Effect R) {roles : Role → Prop} {ts : List TableUse} {w : Walk}
    (h : Composed roles ts w) (r : Reach) (s : Scope) : R r s.footprint (w r s).footprint := by
  induction h generalizing r s with
  | skip => exact effect.refl r _
  | andThen _ _ ihv ihw => exact effect.trans (ihv r s) (ihw r _)
  | condition text => exact effect.addCondition r _ text
  | unsupported _ message => exact effect.note r _ _
  | register t => exact effect.addTable r _ t
  | use => exact effect.record r _ _ _ _ _
  | join kind left right on _ _ ih =>
    rcases joinOn_eq kind (s.known? left) (s.known? right) on _ r s with ⟨e, -, h⟩ | ⟨-, h⟩
    · rw [Walk.join, h]
      exact effect.recordEdge r s e
    · rw [Walk.join, h]
      exact effect.trans (effect.note r _ _) (ih r (s.unsupported _))
  | deeper what _ ih =>
    rcases Nat.lt_or_ge r.depth r.limit with hd | hd
    · rw [deeper_of_lt hd]
      exact effect.deeper hd (ih _ s)
    · rw [deeper_of_le hd]
      exact effect.note r _ _
  | query place q hq _ ih =>
    rcases Nat.lt_or_ge r.depth r.limit with hd | hd
    · rw [query_of_lt hd]
      exact effect.query _ place q hd (child_eq_footprint hq hd place s)
        (ih (r.inside s) (.start place.kind q.render))
    · rw [query_of_le hd]
      exact effect.note r _ _
  | branch _ ih => exact ih r s
  | @negated _ _ w _ ih =>
    obtain ⟨added, hn⟩ := exists_negated_eq w r s
    rw [hn]
    exact effect.negated added (ih r s)

end SqlFootprint.Walk
