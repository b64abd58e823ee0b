import SqlFootprint.Proofs.Extraction.WellFormed

/-!
# The join graph of a statement

The edges of a footprint run between its own tables. Their sides, together with those of the edges
further inside, are the columns that play the role `joined`, and no others are. Both hold because an
edge is recorded with its two columns at once, between relations that have been entered before, and
because a nested footprint hands on its columns together with their roles.
-/

namespace SqlFootprint

/-- The keys of the two sides of an edge. -/
def JoinEdge.keys (e : JoinEdge) : List (String × String) :=
  [(Text.foldAscii e.leftTable, Text.foldAscii e.leftColumn),
    (Text.foldAscii e.rightTable, Text.foldAscii e.rightColumn)]

theorem ColumnUse.foldedKey_mem_keys {c : ColumnUse} {e : JoinEdge} :
    c.foldedKey ∈ e.keys ↔
      c.hasKey e.leftTable e.leftColumn ∨ c.hasKey e.rightTable e.rightColumn := by
  rw [hasKey_eq_true_iff, hasKey_eq_true_iff, JoinEdge.keys, List.mem_cons, List.mem_singleton]

namespace Footprint

/-! ## Footprints -/

/-- An edge of a footprint, or of one inside it, has a side under some key. -/
def HasSide (f : Footprint) (key : String × String) : Prop :=
  ∃ g ∈ f.parts, ∃ e ∈ g.joins, key ∈ e.keys

theorem hasSide_iff {f : Footprint} {key : String × String} :
    f.HasSide key ↔ (∃ e ∈ f.joins, key ∈ e.keys) ∨ ∃ c ∈ f.children, c.HasSide key := by
  unfold HasSide
  rw [parts_eq]
  simp only [List.mem_cons, List.mem_flatMap, or_and_right, exists_or, exists_eq_left]
  apply or_congr_right
  constructor
  · rintro ⟨g, ⟨c, hc, hg⟩, side⟩
    exact ⟨c, hc, g, hg, side⟩
  · rintro ⟨c, hc, g, hg, side⟩
    exact ⟨g, ⟨c, hc, hg⟩, side⟩

/-- The edges of a footprint and its own tables and columns fit together. -/
structure Linked (f : Footprint) : Prop where
  listed : ∀ e ∈ f.joins, f.Lists e.leftTable ∧ f.Lists e.rightTable
  joined : ∀ key, f.Plays .joined key ↔ f.HasSide key

/-- Every footprint of the tree is linked. -/
def IsLinked (f : Footprint) : Prop :=
  ∀ g ∈ f.parts, g.Linked

theorem isLinked_iff {f : Footprint} :
    f.IsLinked ↔ f.Linked ∧ ∀ c ∈ f.children, c.IsLinked :=
  forall_parts_iff

theorem Lists.mono {f g : Footprint} {name : String} (h : f.Lists name)
    (grown : f.tables ⊆ g.tables) : g.Lists name := by
  obtain ⟨t, ht, same⟩ := h
  exact ⟨t, grown ht, same⟩

section Changes

variable {f g child : Footprint}

theorem IsLinked.empty (kind : StatementKind) (text : String) :
    (Footprint.empty kind text).IsLinked := by
  refine isLinked_iff.2 ⟨⟨List.forall_mem_nil _, fun key ↦ ?_⟩, List.forall_mem_nil _⟩
  rw [hasSide_iff]
  refine iff_of_false ColumnUse.not_playing_nil ?_
  rintro (⟨e, he, -⟩ | ⟨c, hc, -⟩)
  · cases he
  · cases hc

/-- Tables may be added, and columns that are no sides of edges. -/
theorem IsLinked.grow (hf : f.IsLinked) (tables : f.tables ⊆ g.tables) (joins : g.joins = f.joins)
    (children : g.children = f.children)
    (joined : ∀ key, g.Plays .joined key ↔ f.Plays .joined key) : g.IsLinked := by
  rw [isLinked_iff] at hf ⊢
  rw [children]
  refine ⟨⟨fun e he ↦ ?_, fun key ↦ ?_⟩, hf.2⟩
  · rw [joins] at he
    exact ⟨(hf.1.listed e he).1.mono tables, (hf.1.listed e he).2.mono tables⟩
  · rw [joined, hf.1.joined, hasSide_iff, hasSide_iff, joins, children]

/-- Conditions and notices have nothing to do with edges. -/
theorem IsLinked.congr (hf : f.IsLinked) (tables : g.tables = f.tables)
    (columns : g.columns = f.columns) (joins : g.joins = f.joins)
    (children : g.children = f.children) : g.IsLinked :=
  hf.grow (by rw [tables]; exact List.Subset.refl _) joins children
    fun key ↦ by rw [Plays, Plays, columns]

theorem IsLinked.record (hf : f.IsLinked) (name : String) (table aliasName : Option String)
    {role : Role} (hr : role.OffEdge) :
    (f.record { name, table, aliasName, roles := .ofRole role }).IsLinked := by
  refine hf.grow (List.Subset.refl _) rfl rfl fun key ↦ ?_
  exact plays_record_of_ne hr nofun

theorem IsLinked.dedup (hf : f.IsLinked) : f.dedup.IsLinked :=
  hf.grow (List.Subset.refl _) rfl rfl fun _ ↦ plays_dedup

/-- A nested footprint hands on the sides of its edges. -/
theorem IsLinked.keep_absorb (hf : f.IsLinked) (hc : child.IsLinked) (place : Place) :
    (place.keep (f.absorb child) child).IsLinked := by
  have tables : f.tables ⊆ (place.keep (f.absorb child) child).tables :=
    ((extends_absorb f child).trans (extends_keep place _ child)).tables.subset
  have joins : (place.keep (f.absorb child) child).joins = f.joins := by cases place <;> rfl
  have children {c : Footprint} : c ∈ (place.keep (f.absorb child) child).children ↔
      c ∈ f.children ∨ c = child := mem_children_keep
  rw [isLinked_iff] at hf ⊢
  refine ⟨⟨fun e he ↦ ?_, fun key ↦ ?_⟩, fun c hc' ↦ ?_⟩
  · rw [joins] at he
    exact ⟨(hf.1.listed e he).1.mono tables, (hf.1.listed e he).2.mono tables⟩
  · rw [plays_keep_absorb, hf.1.joined, (isLinked_iff.1 hc).1.joined, hasSide_iff (f := f),
      hasSide_iff (f := place.keep (f.absorb child) child), joins]
    simp only [children, or_and_right, exists_or, exists_eq_left, or_assoc]
  · obtain hc' | rfl := children.1 hc'
    · exact hf.2 c hc'
    · exact hc

/-- An edge comes with its two sides. -/
theorem IsLinked.recordEdge {s : Scope} (hs : s.footprint.IsLinked) {e : JoinEdge}
    (left : s.footprint.Lists e.leftTable) (right : s.footprint.Lists e.rightTable) :
    (Sql.recordEdge s e).footprint.IsLinked := by
  have joins : (Sql.recordEdge s e).footprint.joins = s.footprint.joins ++ [e] := rfl
  have children : (Sql.recordEdge s e).footprint.children = s.footprint.children := rfl
  rw [isLinked_iff] at hs ⊢
  refine ⟨⟨fun e' he ↦ ?_, fun key ↦ ?_⟩, hs.2⟩
  · rw [joins, List.mem_append, List.mem_singleton] at he
    obtain he | rfl := he
    · exact hs.1.listed e' he
    · exact ⟨left, right⟩
  · have plays : (Sql.recordEdge s e).footprint.Plays .joined key ↔
        (s.footprint.Plays .joined key ∨ key ∈ e.keys) := by
      refine (plays_record.trans (or_congr_left plays_record)).trans ?_
      rw [or_assoc]
      apply or_congr_right
      simp only [JoinEdge.keys, List.mem_cons, List.not_mem_nil, or_false]
      exact or_congr ⟨fun h ↦ h.1.symm, fun h ↦ ⟨h.symm, rfl⟩⟩
        ⟨fun h ↦ h.1.symm, fun h ↦ ⟨h.symm, rfl⟩⟩
    rw [plays, hs.1.joined, hasSide_iff (f := s.footprint),
      hasSide_iff (f := (Sql.recordEdge s e).footprint), joins, children]
    simp only [List.mem_append, List.mem_singleton, or_and_right, exists_or, exists_eq_left]
    exact or_right_comm

end Changes

end Footprint

/-! ## Scopes -/

namespace Scope

/-- The footprint of a scope is linked, and has all relations that qualifiers may mean. -/
structure IsLinked (s : Scope) : Prop where
  visible : ∀ t ∈ s.visible, s.footprint.Lists t.name
  footprint : s.footprint.IsLinked

theorem IsLinked.start (kind : StatementKind) (text : String) : (start kind text).IsLinked :=
  ⟨List.forall_mem_nil _, .empty kind text⟩

theorem IsLinked.edit {s : Scope} (hs : s.IsLinked) {change : Footprint → Footprint}
    (tables : s.footprint.tables ⊆ (change s.footprint).tables)
    (linked : (change s.footprint).IsLinked) : (s.edit change).IsLinked :=
  ⟨fun t ht ↦ (hs.visible t ht).mono tables, linked⟩

theorem IsLinked.note {s : Scope} (hs : s.IsLinked) (n : Notice) : (s.edit (·.note n)).IsLinked :=
  hs.edit (List.Subset.refl _) (hs.footprint.congr rfl rfl rfl rfl)

theorem IsLinked.register {s : Scope} (hs : s.IsLinked) (t : TableUse) :
    (s.register t).IsLinked := by
  have grown := (Footprint.extends_addTable s.footprint t).tables.subset
  refine ⟨fun u hu ↦ ?_, hs.footprint.grow grown rfl rfl fun _ ↦ .rfl⟩
  obtain hu | hu := List.mem_append.1 hu
  · exact (hs.visible u hu).mono grown
  · rw [List.mem_singleton.1 hu]
    exact s.knows_register t t.name rfl

/-- The table of either side of an edge has been entered. -/
theorem IsLinked.lists_sideTable {s : Scope} (hs : s.IsLinked) {c : ColumnRef}
    {relation : Option String} {table : String}
    (h : Sql.sideTable? s c (s.known? relation) = some table) : s.footprint.Lists table := by
  unfold Sql.sideTable? at h
  split at h
  · obtain ⟨t, ht, rfl⟩ := Option.map_eq_some_iff.1 h
    have found : t ∈ s.visible.reverse := by
      rcases Option.or_eq_some_iff.1 ht with h | ⟨-, h⟩
      · exact List.mem_of_find?_eq_some h
      · exact List.mem_of_find?_eq_some h
    exact hs.visible t (List.mem_reverse.1 found)
  · exact lists_of_mem_known? h

theorem IsLinked.lists_of_joinEdge {s : Scope} (hs : s.IsLinked) {kind : JoinKind}
    {left right : Option String} {on : Sql.Expr} {e : JoinEdge}
    (h : Sql.joinEdge? s kind (s.known? left) (s.known? right) on = some e) :
    s.footprint.Lists e.leftTable ∧ s.footprint.Lists e.rightTable := by
  unfold Sql.joinEdge? at h
  split at h
  · cases h
  · split at h
    · cases h
      exact ⟨hs.lists_sideTable ‹_›, hs.lists_sideTable ‹_›⟩
    · cases h

end Scope

namespace Walk

/-- Where columns are joined only as sides of edges, scopes stay linked. -/
theorem Composed.isLinked {roles : Role → Prop} {ts : List TableUse} {w : Walk}
    (h : Composed roles ts w) (hr : ∀ role, roles role → role.OffEdge) (r : Reach) {s : Scope}
    (hs : s.IsLinked) : (w r s).IsLinked := by
  induction h generalizing r s with
  | skip => exact hs
  | andThen _ _ ihv ihw => exact ihw hr r (ihv hr r hs)
  | condition text => exact hs.edit (List.Subset.refl _) (hs.footprint.congr rfl rfl rfl rfl)
  | unsupported _ message => exact hs.note _
  | register t => exact hs.register t
  | use name table aliasName qualifier role =>
    exact hs.edit (List.Subset.refl _) (hs.footprint.record name _ aliasName (hr _ role))
  | join kind left right on _ _ ih =>
    rcases joinOn_eq kind (s.known? left) (s.known? right) on _ r s with ⟨e, he, h⟩ | ⟨-, h⟩
    · obtain ⟨listsLeft, listsRight⟩ := hs.lists_of_joinEdge he
      rw [Walk.join, h]
      exact hs.edit (List.Subset.refl _) (hs.footprint.recordEdge listsLeft listsRight)
    · rw [Walk.join, h]
      exact ih hr r (hs.note _)
  | deeper what _ ih =>
    rcases Nat.lt_or_ge r.depth r.limit with hd | hd
    · rw [deeper_of_lt hd]
      exact ih hr _ hs
    · rw [deeper_of_le hd]
      exact hs.note _
  | query place q _ _ ih =>
    rcases Nat.lt_or_ge r.depth r.limit with hd | hd
    · have inside := ih (fun _ ↦ And.left) (r.inside s) (.start place.kind q.render)
      have linked := hs.footprint.keep_absorb inside.footprint.dedup place
      rw [query_of_lt hd]
      exact hs.edit ((Footprint.extends_absorb _ _).trans
        (Footprint.extends_keep place _ _)).tables.subset linked
    · rw [query_of_le hd]
      exact hs.note _
  | branch _ ih =>
    have inside := ih hr r hs
    exact ⟨fun t ht ↦ inside.visible t (List.mem_of_mem_take ht), inside.footprint⟩
  | @negated _ _ w _ ih =>
    obtain ⟨added, hn⟩ := exists_negated_eq w r s
    have inside := ih hr r hs
    rw [hn]
    exact inside.edit (List.Subset.refl _) (inside.footprint.congr rfl rfl rfl rfl)

end Walk

namespace Footprint

theorem isLinked_ofStatement (limit : Nat) (statement : Sql.Statement) (text : String) :
    (ofStatement limit statement text).IsLinked :=
  (statement.walk_composed.isLinked (fun _ ↦ id) ⟨[], 0, limit⟩
    (.start statement.kind text)).footprint.dedup

/-- In the footprint of any statement and those inside it, edges run between listed tables, and a
column is marked as joined exactly if an edge there, or further inside, has it for a side. -/
theorem joins_ofStatement {limit : Nat} {statement : Sql.Statement} {text : String} {f : Footprint}
    (hf : f ∈ (ofStatement limit statement text).parts) :
    (∀ e ∈ f.joins, (∃ t ∈ f.tables, t.name = e.leftTable) ∧
      ∃ t ∈ f.tables, t.name = e.rightTable) ∧
    ∀ c ∈ f.columns, c.roles.joined ↔ ∃ g ∈ f.parts, ∃ e ∈ g.joins,
      c.hasKey e.leftTable e.leftColumn ∨ c.hasKey e.rightTable e.rightColumn := by
  have linked := isLinked_ofStatement limit statement text f hf
  have single := isSound_ofStatement limit statement text f hf
  refine ⟨linked.listed, fun c hc ↦ ?_⟩
  have sides : f.HasSide c.foldedKey ↔ ∃ g ∈ f.parts, ∃ e ∈ g.joins,
      c.hasKey e.leftTable e.leftColumn ∨ c.hasKey e.rightTable e.rightColumn := by
    simp only [HasSide, ColumnUse.foldedKey_mem_keys]
  rw [← sides, ← linked.joined]
  constructor
  · intro joined
    exact ⟨c, hc, rfl, joined⟩
  · intro plays
    exact single.has_of_plays hc plays

/-- In `SELECT a FROM s WHERE EXISTS (SELECT 1 FROM t JOIN u ON t.a = u.b)` the column `u.b` is
marked in the outer footprint, for an edge of the inner one. -/
theorem joins_ofStatement_sample :
    let on : Sql.Expr := .binary (.column [⟨"t", none⟩] ⟨"a", none⟩) (.compare .eq)
      (.column [⟨"u", none⟩] ⟨"b", none⟩)
    let joined : List Sql.Join := [⟨false, .table [⟨"u", none⟩] [] none [], .inner (.on on)⟩]
    let inner : Sql.Query := .plain [.expr (.constant "1")]
      [⟨.table [⟨"t", none⟩] [] none [], joined⟩]
    let outer : Sql.Query := .plain [.expr (.column [] ⟨"a", none⟩)] [.named [⟨"s", none⟩]]
      (some (.existsQuery false inner))
    let f := ofStatement 9 (.query outer) ""
    f ∈ f.parts ∧ f.joins = [] ∧ ∃ c ∈ f.columns, c.key = ("u", "b") ∧ c.roles.joined ∧
      ∃ g ∈ f.parts, ∃ e ∈ g.joins,
        c.hasKey e.leftTable e.leftColumn ∨ c.hasKey e.rightTable e.rightColumn := by
  intro on joined inner outer f
  have marked : ∃ c ∈ f.columns, c.key = ("u", "b") ∧ c.roles.joined := by decide +kernel
  obtain ⟨c, hc, key, joined⟩ := marked
  have side := ((joins_ofStatement f.mem_parts_self).2 c hc).1 joined
  exact ⟨f.mem_parts_self, by decide +kernel, c, hc, key, joined, side⟩

end Footprint

end SqlFootprint
