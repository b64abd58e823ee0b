import SqlFootprint.Proofs.Extraction.Composition

/-!
# The tables of a statement

A walk that gives no notice enters all of its relations, in their order and each identity once. The
footprints of nested queries hand their tables on, so that the footprint of the statement lists the
relations of the statement down to any depth. Two relations of one identity share an entry, which
has the schema of the first.
-/

namespace SqlFootprint

/-! ## Lists of tables -/

namespace TableUse

theorem find?_insert (tables : List TableUse) (t : TableUse) (id : String × Option String) :
    (insert tables t).find? (·.identity == id) =
      (tables.find? (·.identity == id)).or ([t].find? (·.identity == id)) := by
  unfold insert
  split
  · rename_i known
    cases hf : tables.find? (·.identity == id) with
    | some u => rfl
    | none =>
      -- What stands for the new table would have been found.
      obtain ⟨u, hu, same⟩ := List.any_eq_true.1 known
      have other : ¬(u.identity == id) := List.find?_eq_none.1 hf u hu
      rw [beq_iff_eq.1 same] at other
      simp [other]
  · exact List.find?_append

/-- An identity is found where it first came. -/
theorem find?_insertAll (tables new : List TableUse) (id : String × Option String) :
    (new.foldl insert tables).find? (·.identity == id) =
      (tables.find? (·.identity == id)).or (new.find? (·.identity == id)) := by
  induction new generalizing tables with
  | nil => rw [List.foldl_nil, List.find?_nil, Option.or_none]
  | cons t new ih =>
    rw [List.foldl_cons, ih, find?_insert, Option.or_assoc, ← List.find?_append]
    rfl

theorem insert_insertAll (tables new : List TableUse) (t : TableUse) :
    (insert new t).foldl insert tables = insert (new.foldl insert tables) t := by
  by_cases known : new.any (·.identity == t.identity)
  · have there : (new.foldl insert tables).any (·.identity == t.identity) := by
      rw [← List.isSome_find?] at known ⊢
      rw [find?_insertAll, Option.isSome_or, known, Bool.or_true]
    rw [insert, if_pos known, insert, if_pos there]
  · rw [insert, if_neg known, List.foldl_append]
    rfl

/-- It makes no difference whether tables are first gathered on their own. -/
theorem insertAll_insertAll (tables us ts : List TableUse) :
    (ts.foldl insert us).foldl insert tables = ts.foldl insert (us.foldl insert tables) := by
  induction ts generalizing us with
  | nil => rfl
  | cons t ts ih => rw [List.foldl_cons, ih, insert_insertAll, List.foldl_cons]

theorem mem_insert {tables : List TableUse} {t u : TableUse} (h : u ∈ insert tables t) :
    u ∈ tables ∨ u = t := by
  unfold insert at h
  split at h
  · exact .inl h
  · rw [List.mem_append, List.mem_singleton] at h
    exact h

theorem mem_insertAll {tables new : List TableUse} {u : TableUse}
    (h : u ∈ new.foldl insert tables) : u ∈ tables ∨ u ∈ new := by
  induction new generalizing tables with
  | nil => exact .inl h
  | cons t new ih =>
    rw [List.mem_cons]
    obtain old | later := ih h
    · obtain old | rfl := mem_insert old
      · exact .inl old
      · exact .inr (.inl rfl)
    · exact .inr (.inr later)

end TableUse

namespace Footprint

/-- There is no notice in the tree. -/
def IsSilent : Footprint → Prop :=
  EveryNotice fun _ ↦ False

end Footprint

namespace Walk

open Footprint

/-- A walk without notices enters its relations and no others. -/
theorem Composed.tables_eq {roles : Role → Prop} {ts : List TableUse} {w : Walk}
    (h : Composed roles ts w) (r : Reach) (s : Scope) (silent : (w r s).footprint.IsSilent) :
    (w r s).footprint.tables = ts.foldl TableUse.insert s.footprint.tables := by
  induction h generalizing r s with
  | skip => rfl
  | @andThen _ _ _ v w _ kw ihv ihw =>
    have first : (v r s).footprint.tables = _ := ihv r s (silent.of_extends (kw.extends r _))
    rw [List.foldl_append, ← first]
    exact ihw r _ silent
  | condition | register | use => rfl
  | unsupported ts message => exact silent.of_note.elim
  | @join _ ts w kind left right on edge hw ih =>
    rcases joinOn_eq kind (s.known? left) (s.known? right) on w r s with ⟨e, he, h⟩ | ⟨-, h⟩
    · have single : on.equiJoin?.isSome := by
        unfold Sql.joinEdge? at he
        cases hq : on.equiJoin? with
        | none => simp [hq] at he
        | some p => rfl
      rw [Walk.join, h, edge single]
      rfl
    · rw [Walk.join, h] at silent
      have noted := silent.of_extends (hw.extends r (s.unsupported _))
      exact noted.of_note.elim
  | @deeper _ ts w what _ ih =>
    rcases Nat.lt_or_ge r.depth r.limit with hd | hd
    · rw [deeper_of_lt hd] at silent ⊢
      exact ih _ s silent
    · rw [deeper_of_le hd] at silent
      exact silent.of_note.elim
  | @query _ ts w place q _ _ ih =>
    rcases Nat.lt_or_ge r.depth r.limit with hd | hd
    · rw [query_of_lt hd] at silent ⊢
      have inner : (child place q.render w r s).IsSilent :=
        (everyNotice_iff.1 silent).2 _ (mem_children_keep.2 (.inr rfl))
      have entered : (child place q.render w r s).tables = ts.foldl TableUse.insert [] :=
        ih (r.inside s) (.start place.kind q.render) (inner.congr rfl rfl)
      have kept : (place.keep (s.footprint.absorb (child place q.render w r s))
          (child place q.render w r s)).tables =
          (child place q.render w r s).tables.foldl TableUse.insert s.footprint.tables := by
        cases place with
        | withClause => rfl
        | elsewhere => rfl
      rw [entered, TableUse.insertAll_insertAll] at kept
      exact kept
    · rw [query_of_le hd] at silent
      exact silent.of_note.elim
  | @branch _ ts w _ ih => exact ih r s silent
  | @negated _ ts w _ ih =>
    obtain ⟨added, hn⟩ := exists_negated_eq w r s
    rw [hn] at silent ⊢
    exact ih r s (silent.congr rfl rfl)

/-- Whatever notices it gives, a walk enters no other relations than its own: no others are listed,
and no others come to be visible. -/
theorem Composed.entered {roles : Role → Prop} {ts : List TableUse} {w : Walk}
    (h : Composed roles ts w) (r : Reach) (s : Scope) :
    (∀ t ∈ (w r s).footprint.tables, t ∈ s.footprint.tables ∨ t ∈ ts) ∧
      ∀ t ∈ (w r s).visible, t ∈ s.visible ∨ t ∈ ts := by
  induction h generalizing r s with
  | skip | condition | unsupported | use => exact ⟨fun _ ↦ .inl, fun _ ↦ .inl⟩
  | register u =>
    simp only [List.mem_singleton]
    exact ⟨fun _ ↦ TableUse.mem_insert, fun _ ht ↦ by simpa using List.mem_append.1 ht⟩
  | andThen _ _ ihv ihw =>
    obtain ⟨listedV, visibleV⟩ := ihv r s
    obtain ⟨listedW, visibleW⟩ := ihw r _
    simp only [List.mem_append, ← or_assoc]
    exact ⟨fun t ht ↦ (listedW t ht).imp_left (listedV t),
      fun t ht ↦ (visibleW t ht).imp_left (visibleV t)⟩
  | join kind left right on _ _ ih =>
    rcases joinOn_eq kind (s.known? left) (s.known? right) on _ r s with ⟨e, -, h⟩ | ⟨-, h⟩
    · rw [Walk.join, h]
      exact ⟨fun _ ↦ .inl, fun _ ↦ .inl⟩
    · rw [Walk.join, h]
      exact ih r (s.unsupported _)
  | deeper what _ ih =>
    rcases Nat.lt_or_ge r.depth r.limit with hd | hd
    · rw [deeper_of_lt hd]
      exact ih _ s
    · rw [deeper_of_le hd]
      exact ⟨fun _ ↦ .inl, fun _ ↦ .inl⟩
  | @query _ _ w place q _ _ ih =>
    rcases Nat.lt_or_ge r.depth r.limit with hd | hd
    · rw [query_of_lt hd]
      refine ⟨fun t ht ↦ ?_, fun _ ↦ .inl⟩
      have merged : t ∈ (child place q.render w r s).tables.foldl TableUse.insert
          s.footprint.tables := by
        cases place with
        | withClause => exact ht
        | elsewhere => exact ht
      obtain ⟨listed, -⟩ := ih (r.inside s) (.start place.kind q.render)
      exact (TableUse.mem_insertAll merged).imp_right fun inside ↦
        (listed t inside).resolve_left List.not_mem_nil
    · rw [query_of_le hd]
      exact ⟨fun _ ↦ .inl, fun _ ↦ .inl⟩
  | branch _ ih =>
    obtain ⟨listed, visible⟩ := ih r s
    exact ⟨listed, fun t ht ↦ visible t (List.mem_of_mem_take ht)⟩
  | negated _ ih => exact ih r s

end Walk

namespace Footprint

/-- A footprint without notices lists the relations of its statement, each identity once. -/
theorem tables_ofStatement {limit : Nat} {statement : Sql.Statement} {text : String}
    (silent : (ofStatement limit statement text).IsSilent) :
    (ofStatement limit statement text).tables = statement.relations.foldl TableUse.insert [] :=
  statement.walk_composed.tables_eq ⟨[], 0, limit⟩ (.start statement.kind text)
    (EveryNotice.congr silent rfl rfl)

/-- A footprint lists no tables but the relations of its statement. -/
theorem mem_relations_of_mem_tables {limit : Nat} {statement : Sql.Statement} {text : String}
    {t : TableUse} (ht : t ∈ (ofStatement limit statement text).tables) : t ∈ statement.relations :=
  have entered := statement.walk_composed.entered ⟨[], 0, limit⟩ (.start statement.kind text)
  (entered.1 t ht).resolve_left List.not_mem_nil

/-- If nothing in the tree says that something was left out, every relation of the statement has
an entry with its name and alias, which is the first of the relations with these. -/
theorem exists_mem_tables_of_no_notices {limit : Nat} {statement : Sql.Statement} {text : String}
    (silent : (ofStatement limit statement text).allNotices = []) {t : TableUse}
    (ht : t ∈ statement.relations) :
    ∃ u ∈ (ofStatement limit statement text).tables,
      u.name = t.name ∧ u.aliasName = t.aliasName ∧
      statement.relations.find? (·.identity == t.identity) = some u := by
  have listed : (ofStatement limit statement text).tables =
      statement.relations.foldl TableUse.insert [] := by
    apply tables_ofStatement
    intro n hn
    rw [silent] at hn
    exact List.not_mem_nil hn
  -- Looking an identity up among the entries is looking it up among the relations.
  have found := TableUse.find?_insertAll [] statement.relations t.identity
  rw [← listed, List.find?_nil, Option.none_or] at found
  cases hu : statement.relations.find? (·.identity == t.identity) with
  | none => exact absurd BEq.rfl (List.find?_eq_none.1 hu t ht)
  | some u =>
    rw [hu] at found
    have agree : u.identity = t.identity := by simpa using List.find?_some found
    obtain ⟨name, aliasName⟩ := Prod.mk.inj agree
    exact ⟨u, List.mem_of_find?_eq_some found, name, aliasName, rfl⟩

/-- The table of an inner query is listed as well. -/
theorem exists_mem_tables_sample :
    let statement := Sql.Statement.query .sample
    (ofStatement 4 statement "").allNotices = [] ∧ ⟨"u", none, none⟩ ∈ statement.relations ∧
      ∃ u ∈ (ofStatement 4 statement "").tables, u.name = "u" ∧ u.aliasName = none ∧
        statement.relations.find? (·.identity == ("u", none)) = some u := by
  intro statement
  have silent : (ofStatement 4 statement "").allNotices = [] := by decide +kernel
  have mentioned : ⟨"u", none, none⟩ ∈ statement.relations := by decide
  exact ⟨silent, mentioned, exists_mem_tables_of_no_notices silent mentioned⟩

/-- In `SELECT * FROM a.t, b.t` the second schema is lost, and in `UPDATE t SET a = 1 FROM s` the
table `s`, without a notice. -/
theorem not_all_relations_listed :
    (let statement := Sql.Statement.query (.plain [.wildcard []]
      [.named [⟨"a", none⟩, ⟨"t", none⟩], .named [⟨"b", none⟩, ⟨"t", none⟩]])
    (ofStatement 4 statement "").allNotices = [] ∧
      ⟨"t", none, "b"⟩ ∈ statement.relations ∧
      ⟨"t", none, "b"⟩ ∉ (ofStatement 4 statement "").tables) ∧
    let update : Sql.Update := ⟨"", .named [⟨"t", none⟩],
      [.mk (.column [⟨"a", none⟩]) (.constant "1")], [.named [⟨"s", none⟩]], none, []⟩
    (ofStatement 4 (.update update) "").allNotices = [] ∧
      ⟨"s", none, none⟩ ∈ Sql.relationsOfSources update.sources ∧
      ⟨"s", none, none⟩ ∉ (ofStatement 4 (.update update) "").tables := by
  decide +kernel

end Footprint

end SqlFootprint
