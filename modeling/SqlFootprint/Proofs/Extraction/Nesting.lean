import SqlFootprint.Proofs.Extraction.Exposure
import SqlFootprint.Proofs.Extraction.Outline

/-!
# Nested footprints

What the footprint of a query shares with those around it are its tables and columns, and nothing
else. Every footprint inside that of a statement is the one that some query gets of its own, so what
is known of queries holds of it: it covers what is inside it, and keeps its joins, conditions and
notices to itself.
-/

namespace SqlFootprint

namespace Footprint

/-- Every footprint inside is that of a query. -/
def OfQueries (f : Footprint) : Prop :=
  ∀ n ∈ f.inner, ∃ q kind r, n = Sql.Query.footprint q kind r

theorem OfQueries.of_children {f g : Footprint} (hf : f.OfQueries)
    (same : g.children = f.children) : g.OfQueries := by
  unfold OfQueries inner
  rw [same]
  exact hf

theorem OfQueries.empty (kind : StatementKind) (text : String) : (empty kind text).OfQueries :=
  List.forall_mem_nil _

end Footprint

namespace Walk

open Footprint

theorem effect_ofQueries : Effect fun _ f g ↦ f.OfQueries → g.OfQueries where
  refl _ _ := id
  trans fg gh := gh ∘ fg
  record _ _ _ _ _ _ hf := hf.of_children rfl
  addTable _ _ _ hf := hf.of_children rfl
  addJoin _ _ _ hf := hf.of_children rfl
  addCondition _ _ _ hf := hf.of_children rfl
  note _ _ _ hf := hf.of_children rfl
  deeper _ fg := fg
  query {r f g} outer place q _ hq inside hf := by
    intro n hn
    obtain ⟨c, hc, hn⟩ := List.mem_flatMap.1 hn
    obtain hc | rfl := mem_children_keep.1 hc
    · exact hf n (List.mem_flatMap.2 ⟨c, hc, hn⟩)
    · rw [parts_eq, List.mem_cons] at hn
      obtain rfl | hn := hn
      · exact ⟨q, place.kind, _, hq⟩
      · exact inside (.empty _ _) n hn
  negated _ fg hf := (fg hf).of_children rfl

/-- A walk leaves the kind and the text as they are. -/
theorem effect_labels : Effect fun _ f g ↦ g.kind = f.kind ∧ g.text = f.text where
  refl _ _ := ⟨rfl, rfl⟩
  trans fg gh := ⟨gh.1.trans fg.1, gh.2.trans fg.2⟩
  record _ _ _ _ _ _ := ⟨rfl, rfl⟩
  addTable _ _ _ := ⟨rfl, rfl⟩
  addJoin _ _ _ := ⟨rfl, rfl⟩
  addCondition _ _ _ := ⟨rfl, rfl⟩
  note _ _ _ := ⟨rfl, rfl⟩
  deeper _ fg := fg
  query _ place _ _ _ _ := by
    cases place with
    | withClause => exact ⟨rfl, rfl⟩
    | elsewhere => exact ⟨rfl, rfl⟩
  negated _ fg := fg

end Walk

namespace Footprint

theorem ofQueries_ofStatement (limit : Nat) (statement : Sql.Statement) (text : String) :
    (ofStatement limit statement text).OfQueries :=
  (statement.walk_composed.effect Walk.effect_ofQueries ⟨[], 0, limit⟩ (.start statement.kind text)
    (.empty statement.kind text)).of_children rfl

/-- A footprint of the tree of a statement has the tables of those inside it, up to their schemas,
and has their columns in all of their roles. But its joins, conditions and notices are those of the
statement or query whose text it has: the outline of that one yields the same. -/
theorem exposure_ofStatement {limit : Nat} {statement : Sql.Statement} {text : String}
    {f : Footprint} (hf : f ∈ (ofStatement limit statement text).parts) :
    (∀ n ∈ f.inner,
      (∀ t ∈ n.tables, ∃ u ∈ f.tables, u.identity = t.identity) ∧
      ∀ c ∈ n.columns, ∃ d ∈ f.columns, d.hasKey c.key.1 c.key.2 ∧
        ∀ role, c.roles.has role → d.roles.has role) ∧
    (f = ofStatement limit statement text ∧
        f.SameOwn (ofStatement limit statement.outline text) ∨
      ∃ q r, f = Sql.Query.footprint q f.kind r ∧ f.text = q.render ∧
        f.SameOwn (q.outline.footprint f.kind r)) := by
  refine ⟨fun n hn ↦ ?_, ?_⟩
  · have exposed : f.IsExposed := fun g hg ↦
      isExposed_ofStatement limit statement text g (parts_subset hf hg)
    have covers := exposed.covers hn
    refine ⟨fun t ht ↦ List.mem_map.1 (covers.tables (List.mem_map_of_mem ht)), fun c hc ↦ ?_⟩
    -- A mention is no mark, so that it is played under every key that there is.
    obtain ⟨d, hd, key, -⟩ := covers.columns .mentioned c.foldedKey ⟨c, hc, rfl, rfl⟩
    refine ⟨d, hd, ColumnUse.hasKey_iff.2 key, fun role has ↦ ?_⟩
    have plays := covers.columns role c.foldedKey ⟨c, hc, rfl, has⟩
    rw [← key] at plays
    exact (isSound_ofStatement limit statement text f hf).has_of_plays hd plays
  · rw [parts_eq, List.mem_cons] at hf
    obtain rfl | hf := hf
    · exact .inl ⟨rfl, sameOwn_ofStatement limit statement text⟩
    · obtain ⟨q, kind, r, rfl⟩ := ofQueries_ofStatement limit statement text f hf
      obtain ⟨sameKind, sameText⟩ : (q.footprint kind r).kind = kind ∧
          (q.footprint kind r).text = q.render :=
        q.walk_composed.walk.effect Walk.effect_labels r (.start kind q.render)
      refine .inr ⟨q, r, by rw [sameKind], sameText, ?_⟩
      rw [sameKind]
      exact q.sameOwn_outline kind r

/-- In `SELECT a FROM s.t WHERE a IN (SELECT b FROM u)` the column `b` is selected inside, and so it
is selected in the footprint of the whole. -/
theorem exposure_ofStatement_sample :
    let f := ofStatement 9 (.query .sample) ""
    f ∈ f.parts ∧ ∃ n ∈ f.inner, (∃ c ∈ n.columns, c.key = ("", "b") ∧ c.roles.has .selected) ∧
      (∃ d ∈ f.columns, d.hasKey "" "b" ∧ d.roles.has .selected) ∧
      ∀ t ∈ n.tables, ∃ u ∈ f.tables, u.identity = t.identity := by
  intro f
  have inside : ∃ n ∈ f.inner, ∃ c ∈ n.columns, c.key = ("", "b") ∧ c.roles.has .selected := by
    decide +kernel
  obtain ⟨n, hn, c, hc, key, has⟩ := inside
  obtain ⟨tables, columns⟩ := (exposure_ofStatement f.mem_parts_self).1 n hn
  obtain ⟨d, hd, same, roles⟩ := columns c hc
  rw [key] at same
  exact ⟨f.mem_parts_self, n, hn, ⟨c, hc, key, has⟩, ⟨d, hd, same, roles _ has⟩, tables⟩

end Footprint

end SqlFootprint
