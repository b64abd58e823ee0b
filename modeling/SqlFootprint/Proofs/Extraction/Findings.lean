import SqlFootprint.Proofs.Extraction.WellFormed
import SqlFootprint.Proofs.Footprint.Findings

/-!
# What walks find

A walk never looks at the footprint that it adds to: what it finds, and the relations that it
enters, are the same for all footprints. `Finds` says what a walk finds from some place, and
`Additive` that it finds something from everywhere.
-/

namespace SqlFootprint

/-! ## Nested queries -/

/-- The columns of a query have not been judged. -/
theorem Sql.Query.standing_footprint (q : Sql.Query) (kind : StatementKind) (r : Reach) :
    ∀ c ∈ (q.footprint kind r).columns, c.standing = (none, none) := by
  have composed := q.walk_composed.walk
  have unjudged := ((composed.effect Walk.effect_isUnjudged r (.start kind q.render))
    (.empty kind q.render)).dedup.columns
  have typed := ((composed.effect Walk.effect_isSound r (.start kind q.render))
    (.empty kind q.render)).dedup.wellFormed.typed
  intro c hc
  have valid : c.valid = none := unjudged c hc
  cases ht : c.type with
  | none => rw [ColumnUse.standing, valid, ht]
  | some type =>
    have known := typed c hc (by rw [ht]; rfl)
    rw [valid] at known
    cases known

/-- What a nested query is for the one around it. -/
def Place.findings : Place → Footprint → Findings
  | withClause, child => { tables := child.tables, columns := child.columns, ctes := [child] }
  | elsewhere, child => { tables := child.tables, columns := child.columns, subqueries := [child] }

theorem Place.columns_findings (place : Place) (child : Footprint) :
    (place.findings child).columns = child.columns := by
  cases place <;> rfl

theorem Place.conditions_findings (place : Place) (child : Footprint) :
    (place.findings child).conditions = [] := by
  cases place <;> rfl

theorem Place.keep_absorb (place : Place) (f child : Footprint) :
    place.keep (f.absorb child) child = f.add (place.findings child) := by
  cases place with
  | withClause => simp [keep, findings, Footprint.add, Footprint.absorb, Footprint.addCte]
  | elsewhere => simp [keep, findings, Footprint.add, Footprint.absorb, Footprint.addSubquery]

namespace Walk

/-! ## Findings of walks -/

/-- From a place where some relations are visible, a walk finds `found` and enters relations,
whatever the footprint is that this is added to. -/
structure Finds (w : Walk) (r : Reach) (visible : List TableUse) (found : Findings)
    (entered : List TableUse) : Prop where
  fresh : found.Fresh
  eq : ∀ f, w r ⟨f, visible⟩ = ⟨f.add found, visible ++ entered⟩

namespace Finds

variable {v w : Walk} {r r' : Reach} {visible entered more : List TableUse} {a b found : Findings}

theorem congr (h : Finds v r visible found entered)
    (e : ∀ f, v r ⟨f, visible⟩ = w r' ⟨f, visible⟩) : Finds w r' visible found entered :=
  ⟨h.fresh, fun f ↦ (e f).symm.trans (h.eq f)⟩

theorem andThen (h : Finds v r visible a entered) (k : Finds w r (visible ++ entered) b more) :
    Finds (v.andThen w) r visible (a ++ b) (entered ++ more) where
  fresh := h.fresh.append k.fresh
  eq f := by
    rw [Walk.andThen, h.eq, k.eq, f.add_append, List.append_assoc]

/-- A change that is made without entering a relation. -/
theorem of_edit (change : Footprint → Footprint) (fresh : found.Fresh)
    (h : ∀ f, change f = f.add found) (r : Reach) (visible : List TableUse) :
    Finds (.edit change) r visible found [] where
  fresh := fresh
  eq f := by
    rw [List.append_nil, ← h]
    rfl

theorem skip (r : Reach) (visible : List TableUse) : Finds .skip r visible {} [] :=
  of_edit id (.of_columns_eq_nil rfl) (fun f ↦ f.add_empty.symm) r visible

theorem note (n : Notice) (r : Reach) (visible : List TableUse) :
    Finds (.edit (·.note n)) r visible { notices := [n] } [] :=
  of_edit _ (.of_columns_eq_nil rfl) (·.note_eq_add n) r visible

theorem condition (text : String) (r : Reach) (visible : List TableUse) :
    Finds (.edit (·.addCondition text)) r visible { conditions := [text] } [] :=
  of_edit _ (.of_columns_eq_nil rfl) (·.addCondition_eq_add text) r visible

/-- A column is recorded under a table that depends on what is visible only. -/
theorem record (name : String) (table aliasName : Option String) (role : Role) (r : Reach)
    (visible : List TableUse) :
    Finds (.edit (·.record { name, table, aliasName, roles := .ofRole role })) r visible
      { columns := [{ name, table, aliasName, roles := .ofRole role }] } [] := by
  refine of_edit _ (fun c hc ↦ ?_) (·.record_eq_add _) r visible
  rw [List.mem_singleton.1 hc]
  rfl

/-- What a qualifier means does not depend on the footprint. -/
theorem recordRef (c : ColumnRef) (role : Role) (aliasName : Option String) (r : Reach)
    (visible : List TableUse) :
    let table := c.qualifier.map ((⟨.empty .select "", visible⟩ : Scope).resolve r.outer)
    Finds (.recordRef c role aliasName) r visible
      { columns := [{ name := c.column, table, aliasName, roles := .ofRole role }] } [] :=
  (record c.column _ aliasName role r visible).congr fun _ ↦ rfl

theorem register (t : TableUse) (r : Reach) (visible : List TableUse) :
    Finds (.register t) r visible { tables := [t] } [t] where
  fresh := .of_columns_eq_nil rfl
  eq f := by
    rw [← f.addTable_eq_add]
    rfl

/-- An edge comes with its two columns. -/
theorem edge (e : JoinEdge) (r : Reach) (visible : List TableUse) :
    Finds (fun _ s ↦ Sql.recordEdge s e) r visible
      { columns :=
          [⟨e.leftColumn, some e.leftTable, none, .ofRole .joined, none, none⟩,
            ⟨e.rightColumn, some e.rightTable, none, .ofRole .joined, none, none⟩]
        joins := [e] } [] where
  fresh := by
    rintro c hc
    rcases List.mem_pair.1 hc with rfl | rfl
    · rfl
    · rfl
  eq f := by
    simp [Sql.recordEdge, Scope.edit, Footprint.add, Footprint.record, Footprint.addJoin,
      ColumnUse.recordAll]

theorem deeper_of_lt (hd : r.depth < r.limit) (what : String)
    (h : Finds w { r with depth := r.depth + 1 } visible found entered) :
    Finds (.deeper what w) r visible found entered :=
  h.congr fun _ ↦ (Walk.deeper_of_lt hd what w _).symm

theorem deeper_of_le (hd : r.limit ≤ r.depth) (what : String) (w : Walk)
    (visible : List TableUse) : ∃ text,
      Finds (.deeper what w) r visible { notices := [⟨.depthLimitExceeded, text⟩] } [] :=
  ⟨_, (note _ r visible).congr fun _ ↦ (Walk.deeper_of_le hd what w _).symm⟩

theorem nested_of_lt (hd : r.depth < r.limit) (place : Place) (q : Sql.Query)
    (visible : List TableUse) :
    Finds (.nested place.kind q.render q.walk place.keep) r visible
      (place.findings (q.footprint place.kind ⟨visible.reverse ++ r.outer, r.depth, r.limit⟩))
      [] where
  fresh := by
    rw [Findings.Fresh, place.columns_findings]
    exact q.standing_footprint _ _
  eq f := by
    rw [List.append_nil, ← place.keep_absorb]
    exact if_pos hd

theorem nested_of_le (hd : r.limit ≤ r.depth) (place : Place) (q : Sql.Query)
    (visible : List TableUse) :
    ∃ text, Finds (.nested place.kind q.render q.walk place.keep) r visible
      { notices := [⟨.depthLimitExceeded, text⟩] } [] :=
  ⟨_, (note _ r visible).congr fun _ ↦ (if_neg (Nat.not_lt.2 hd)).symm⟩

/-- The relations that are entered in a branch are dropped. -/
theorem branch (h : Finds w r visible found entered) : Finds w.branch r visible found [] where
  fresh := h.fresh
  eq f := by
    unfold Walk.branch
    rw [h.eq, List.append_nil]
    dsimp only
    rw [List.take_left]

/-- A nested query consists of what its walk finds. -/
theorem footprint_eq {q : Sql.Query} (h : Finds q.walk r [] found entered) (kind : StatementKind) :
    q.footprint kind r = ((Footprint.empty kind q.render).add found).dedup :=
  congrArg Scope.finish (h.eq _)

/-- So does a statement. -/
theorem ofStatement_eq {s : Sql.Statement} {limit : Nat}
    (h : Finds s.walk ⟨[], 0, limit⟩ [] found entered) (text : String) :
    Footprint.ofStatement limit s text = ((Footprint.empty s.kind text).add found).dedup :=
  congrArg Scope.finish (h.eq _)

end Finds

/-- From everywhere a walk finds something. -/
def Additive (w : Walk) : Prop :=
  ∀ r visible, ∃ found entered, Finds w r visible found entered

namespace Additive

variable {v w : Walk}

theorem congr (h : Additive v) (e : ∀ r s, v r s = w r s) : Additive w := by
  have same : v = w := funext fun r ↦ funext (e r)
  rwa [← same]

theorem skip : Additive .skip :=
  fun r visible ↦ ⟨_, _, .skip r visible⟩

theorem andThen (h : Additive v) (k : Additive w) : Additive (v.andThen w) := by
  intro r visible
  obtain ⟨a, entered, first⟩ := h r visible
  obtain ⟨b, more, second⟩ := k r (visible ++ entered)
  exact ⟨_, _, first.andThen second⟩

theorem cons {ws : List Walk} (h : Additive w) (k : Additive (.all ws)) :
    Additive (.all (w :: ws)) :=
  h.andThen k

theorem pair (h : Additive v) (k : Additive w) : Additive (.all [v, w]) :=
  h.cons (k.cons skip)

theorem ite (p : Prop) [Decidable p] (h : Additive v) (k : Additive w) :
    Additive (if p then v else w) := by
  split
  · exact h
  · exact k

theorem unsupported (message : String) : Additive (.unsupported message) :=
  fun r visible ↦ ⟨_, _, .note _ r visible⟩

theorem register (t : TableUse) : Additive (.register t) :=
  fun r visible ↦ ⟨_, _, .register t r visible⟩

theorem recordRef (c : ColumnRef) (role : Role) (aliasName : Option String) :
    Additive (.recordRef c role aliasName) :=
  fun r visible ↦ ⟨_, _, .recordRef c role aliasName r visible⟩

theorem deeper (what : String) (h : Additive w) : Additive (.deeper what w) := by
  intro r visible
  rcases Nat.lt_or_ge r.depth r.limit with hd | hd
  · obtain ⟨found, entered, finds⟩ := h { r with depth := r.depth + 1 } visible
    exact ⟨found, entered, .deeper_of_lt hd what finds⟩
  · obtain ⟨n, finds⟩ := Finds.deeper_of_le hd what w visible
    exact ⟨_, _, finds⟩

theorem nested (place : Place) (q : Sql.Query) :
    Additive (.nested place.kind q.render q.walk place.keep) := by
  intro r visible
  rcases Nat.lt_or_ge r.depth r.limit with hd | hd
  · exact ⟨_, _, .nested_of_lt hd place q visible⟩
  · obtain ⟨n, finds⟩ := Finds.nested_of_le hd place q visible
    exact ⟨_, _, finds⟩

theorem branch (h : Additive w) : Additive w.branch := by
  intro r visible
  obtain ⟨found, entered, finds⟩ := h r visible
  exact ⟨_, _, finds.branch⟩

/-- Whether a condition makes an edge is told by the relations that are visible. -/
theorem joinOn (kind : JoinKind) (left right : Option String) (on : Sql.Expr) (h : Additive w) :
    Additive (Sql.joinOn kind left right on w) := by
  intro r visible
  cases he : Sql.joinEdge? ⟨.empty .select "", visible⟩ kind left right on with
  | none =>
    have noted := Finds.note ⟨.unsupportedConstruct, Sql.noEdgeMessage on⟩ r visible
    obtain ⟨found, entered, finds⟩ := h r (visible ++ [])
    refine ⟨_, _, (noted.andThen finds).congr fun f ↦ ?_⟩
    have none : Sql.joinEdge? ⟨f, visible⟩ kind left right on = none := he
    rw [Sql.joinOn, none]
    rfl
  | some e =>
    refine ⟨_, _, (Finds.edge e r visible).congr fun f ↦ ?_⟩
    have edge : Sql.joinEdge? ⟨f, visible⟩ kind left right on = some e := he
    rw [Sql.joinOn, edge]

end Additive

end Walk

end SqlFootprint
