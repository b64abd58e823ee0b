import SqlFootprint.Proofs.Extraction.Writes

/-!
# Which joins make edges

A join makes an edge if it is of a standard kind and its condition is a single equality of columns
whose tables are known at that place: `JoinSite.Makes`. The joins of an item of `FROM`, those in
parentheses included, make their edges one after the other, and each of the others that says
anything on its columns leaves a notice.

An edge runs from the column on the left of the equality to the one on the right. So if an equality
is turned round, its edge is turned round as well, whatever the kind of the join.
-/

namespace SqlFootprint

namespace Sql

/-! ## Joins in their places -/

/-- A join in its place. -/
structure JoinSite where
  join : Join
  /-- The relations that have been entered before, the one that is joined included. -/
  entered : List TableUse
  /-- The relation that comes right before the join. -/
  left : Option String
  /-- The relation that is joined. -/
  right : Option String

mutual

/-- The joins in parentheses. Those in a derived table belong to its own query. -/
def TableFactor.sites (entered : List TableUse) : TableFactor → List JoinSite
  | .nestedJoin joined _ => joined.sites entered
  | .table _ _ _ _ | .derived _ _ _ | .special _ _ _ => []

/-- The joins of an item of `FROM`, where some relations have been entered before. Those inside a
relation come before the join that uses it. -/
def TableWithJoins.sites (entered : List TableUse) : TableWithJoins → List JoinSite
  | ⟨relation, joins⟩ =>
    relation.sites entered ++ sitesOfJoins (entered ++ relation.registered) relation.owner? joins

def sitesOfJoins (entered : List TableUse) (left : Option String) : List Join → List JoinSite
  | [] => []
  | ⟨global, relation, operator⟩ :: js =>
    relation.sites entered ++
      ⟨⟨global, relation, operator⟩, entered ++ relation.registered, left, relation.owner?⟩ ::
        sitesOfJoins (entered ++ relation.registered) relation.owner? js

end

/-- One side of an equality is a column, and its table is known: the one that its qualifier names
among the relations that have been entered, or the relation on its side if it is bare. -/
inductive Side (entered : List TableUse) (relation : Option String) :
    Expr → (table column : String) → Prop
  | qualified {path : List Ident} {name qualifier : Ident} {t : TableUse} :
      path.getLast? = some qualifier → TableUse.find? entered.reverse qualifier.text = some t →
      Side entered relation (.column path name) t.name name.text
  | bare {name : Ident} {table : String} :
      relation = some table → Side entered relation (.column [] name) table name.text
  | nested {inner : Expr} {table column : String} :
      Side entered relation inner table column →
      Side entered relation (.nested inner) table column

/-- A condition is a single equality of columns the tables of which are known. -/
inductive Equates (entered : List TableUse) (left right : Option String) :
    Expr → (leftTable leftColumn rightTable rightColumn : String) → Prop
  | equality {l r : Expr} {lt lc rt rc : String} :
      Side entered left l lt lc → Side entered right r rt rc →
      Equates entered left right (.binary l (.compare .eq) r) lt lc rt rc
  | nested {inner : Expr} {lt lc rt rc : String} :
      Equates entered left right inner lt lc rt rc →
      Equates entered left right (.nested inner) lt lc rt rc

namespace JoinSite

/-- The edge that a join makes. -/
inductive Makes (site : JoinSite) : JoinEdge → Prop
  | edge {kind : JoinKind} {on : Expr} {lt lc rt rc : String} :
      site.join.operator.standard? = some (kind, .on on) →
      Equates site.entered site.left site.right on lt lc rt rc →
      Makes site ⟨kind, lt, rt, lc, rc, some on.render⟩

end JoinSite

/-- What is said of a join that makes no edge, unless it is of a standard kind and unconditional. -/
def Join.complaint? (j : Join) : Option String :=
  match j.operator.standard? with
  | none => some ("join `" ++ j.render ++ "` is not modeled")
  | some (_, .on on) => some (noEdgeMessage on)
  | some (kind, .usingColumns _) =>
    some (kind.render ++ " join with USING is not modeled as a join edge")
  | some (kind, .natural) =>
    some ("NATURAL " ++ kind.render ++ " join is not modeled as a join edge")
  | some (_, .none) => none

/-! ## Edges are told by their places -/

/-- The edge of a join, as far as it is told by the relations that have been entered. -/
def JoinOperator.edge? (entered : List TableUse) (left right : Option String)
    (o : JoinOperator) : Option JoinEdge :=
  match o.standard? with
  | some (kind, .on on) => joinEdge? ⟨.empty .select "", entered⟩ kind left right on
  | _ => none

def JoinSite.edge? (site : JoinSite) : Option JoinEdge :=
  site.join.operator.edge? site.entered site.left site.right

section Telling

variable {s : Scope} {relation left right : Option String} {e : Expr} {table column : String}

theorem side_of_columnRef? {c : ColumnRef} (he : e.columnRef? = some c)
    (ht : sideTable? s c relation = some table) : Side s.visible relation e table c.column := by
  fun_induction Expr.columnRef? e with
  | case1 path name =>
    cases he
    cases hp : path.getLast? with
    | none =>
      rw [sideTable?, hp, Option.map_none] at ht
      rw [List.getLast?_eq_none_iff.1 hp]
      exact .bare ht
    | some qualifier =>
      rw [sideTable?, hp, Option.map_some] at ht
      obtain ⟨t, found, rfl⟩ := Option.map_eq_some_iff.1 ht
      exact .qualified hp found
  | case2 inner ih => exact .nested (ih he)
  | case3 => cases he

theorem Side.exists_columnRef? (h : Side s.visible relation e table column) :
    ∃ c, e.columnRef? = some c ∧ sideTable? s c relation = some table ∧ c.column = column := by
  induction h with
  | @qualified path name qualifier t hp found =>
    refine ⟨_, rfl, ?_, rfl⟩
    rw [sideTable?, hp]
    exact Option.map_eq_some_iff.2 ⟨t, found, rfl⟩
  | bare known => exact ⟨_, rfl, known, rfl⟩
  | nested _ ih => exact ih

theorem equates_of_equiJoin? {l r : ColumnRef} {lt rt : String} (he : e.equiJoin? = some (l, r))
    (hl : sideTable? s l left = some lt) (hr : sideTable? s r right = some rt) :
    Equates s.visible left right e lt l.column rt r.column := by
  fun_induction Expr.equiJoin? e with
  | case1 inner ih => exact .nested (ih he)
  | case2 a b c d hb ha =>
    cases he
    exact .equality (side_of_columnRef? ha hl) (side_of_columnRef? hb hr)
  | case3 => cases he
  | case4 => cases he

theorem Equates.exists_equiJoin? {lt lc rt rc : String}
    (h : Equates s.visible left right e lt lc rt rc) :
    ∃ l r, e.equiJoin? = some (l, r) ∧ sideTable? s l left = some lt ∧
      sideTable? s r right = some rt ∧ l.column = lc ∧ r.column = rc := by
  induction h with
  | equality hl hr =>
    obtain ⟨c, hc, lt, lc⟩ := hl.exists_columnRef?
    obtain ⟨d, hd, rt, rc⟩ := hr.exists_columnRef?
    exact ⟨c, d, by rw [Expr.equiJoin?, hc, hd], lt, rt, lc, rc⟩
  | nested _ ih => exact ih

theorem joinEdge?_eq_some_iff {kind : JoinKind} {edge : JoinEdge} :
    joinEdge? s kind left right e = some edge ↔
      ∃ lt lc rt rc, Equates s.visible left right e lt lc rt rc ∧
        ⟨kind, lt, rt, lc, rc, some e.render⟩ = edge := by
  constructor
  · intro h
    unfold joinEdge? at h
    split at h
    · cases h
    · split at h
      · cases h
        exact ⟨_, _, _, _, equates_of_equiJoin? ‹_› ‹_› ‹_›, rfl⟩
      · cases h
  · rintro ⟨lt, lc, rt, rc, equates, rfl⟩
    obtain ⟨l, r, he, hl, hr, rfl, rfl⟩ := equates.exists_equiJoin?
    unfold joinEdge?
    simp only [he, hl, hr]

end Telling

theorem JoinSite.edge?_eq_some_iff {site : JoinSite} {edge : JoinEdge} :
    site.edge? = some edge ↔ site.Makes edge := by
  unfold JoinSite.edge? JoinOperator.edge?
  constructor
  · intro h
    split at h
    · obtain ⟨lt, lc, rt, rc, equates, rfl⟩ := joinEdge?_eq_some_iff.1 h
      exact .edge ‹_› equates
    · cases h
  · rintro ⟨standard, equates⟩
    rw [standard]
    exact joinEdge?_eq_some_iff.2 ⟨_, _, _, _, equates, rfl⟩

end Sql

namespace Walk.Reading

/-- The joins inside an expression belong to nested queries. -/
theorem joins {cs : List ColumnRef} {w : Walk} (h : Reading cs w) (r : Reach) (s : Scope) :
    (w r s).footprint.joins = s.footprint.joins :=
  congrArg (fun kept ↦ kept.2.1) (h.settled r s)

/-- A notice is not taken back. -/
theorem notices {cs : List ColumnRef} {w : Walk} (h : Reading cs w) (r : Reach) (s : Scope) :
    s.footprint.notices ⊆ (w r s).footprint.notices := by
  obtain ⟨ts, composed⟩ := h.composed
  exact (composed.extends r s).notices.subset

end Walk.Reading

namespace Sql

/-! ## Walks through joins -/

/-- One footprint becomes another one in that some joins make their edges or leave notices. -/
structure Joined (sites : List JoinSite) (f g : Footprint) : Prop where
  joins : g.joins = f.joins ++ sites.filterMap JoinSite.edge?
  notices : f.notices ⊆ g.notices
  told : ∀ site ∈ sites, site.edge? = none → ∀ text ∈ site.join.complaint?,
    ⟨.unsupportedConstruct, text⟩ ∈ g.notices

namespace Joined

variable {a b : List JoinSite} {f g h : Footprint}

/-- Without joins there is nothing to tell. -/
theorem none (joins : g.joins = f.joins) (notices : f.notices ⊆ g.notices) : Joined [] f g :=
  ⟨joins.trans (List.append_nil _).symm, notices, List.forall_mem_nil _⟩

theorem append (fg : Joined a f g) (gh : Joined b g h) : Joined (a ++ b) f h where
  joins := by rw [gh.joins, fg.joins, List.filterMap_append, List.append_assoc]
  notices := List.Subset.trans fg.notices gh.notices
  told := List.forall_mem_append.2
    ⟨fun site hs plain text ht ↦ gh.notices (fg.told site hs plain text ht), gh.told⟩

theorem single_of_some {site : JoinSite} {e : JoinEdge} (edge : site.edge? = some e)
    (joins : g.joins = f.joins ++ [e]) (notices : f.notices ⊆ g.notices) : Joined [site] f g where
  joins := by rw [joins, List.filterMap_cons_some edge, List.filterMap_nil]
  notices := notices
  told := List.forall_mem_singleton.2 fun plain ↦ by cases edge.symm.trans plain

/-- A join that makes no edge, with what is said of it. -/
theorem single_of_none {site : JoinSite} (plain : site.edge? = Option.none)
    (joins : g.joins = f.joins) (notices : f.notices ⊆ g.notices)
    (told : ∀ text ∈ site.join.complaint?, ⟨.unsupportedConstruct, text⟩ ∈ g.notices) :
    Joined [site] f g where
  joins := by rw [joins, List.filterMap_cons_none plain, List.filterMap_nil, List.append_nil]
  notices := notices
  told := List.forall_mem_singleton.2 fun _ ↦ told

/-- The relation that is entered under an alias makes no join. -/
theorem addTable (fg : Joined a f g) (t : TableUse) : Joined a f (g.addTable t) :=
  ⟨fg.joins, fg.notices, fg.told⟩

/-- A join that is passed over with a notice. -/
theorem note {site : JoinSite} {text : String} (plain : site.edge? = Option.none)
    (complaint : site.join.complaint? = some text) :
    Joined [site] f (f.note ⟨.unsupportedConstruct, text⟩) := by
  refine single_of_none plain rfl (f.extends_note _).notices.subset fun told ht ↦ ?_
  obtain rfl : text = told := Option.some.inj (complaint.symm.trans ht)
  exact f.mem_notices_note _

end Joined

namespace JoinSite

theorem edge?_of_on {site : JoinSite} {kind : JoinKind} {on : Expr} {s : Scope}
    (standard : site.join.operator.standard? = some (kind, .on on))
    (entered : s.visible = site.entered) :
    site.edge? = joinEdge? s kind site.left site.right on := by
  rw [edge?, JoinOperator.edge?, standard, ← entered]
  rfl

theorem edge?_of_ne_on {site : JoinSite} {standard : Option (JoinKind × JoinConstraint)}
    (h : site.join.operator.standard? = standard)
    (hc : ∀ kind on, standard ≠ some (kind, .on on)) : site.edge? = none := by
  rw [edge?, JoinOperator.edge?, h]
  split
  · exact absurd rfl (hc _ _)
  · rfl

end JoinSite

theorem JoinConstraint.joined {site : JoinSite} {kind : JoinKind} {c : JoinConstraint}
    (standard : site.join.operator.standard? = some (kind, c)) (r : Reach) {s : Scope}
    (entered : s.visible = site.entered) :
    Joined [site] s.footprint (c.walk kind site.left site.right r s).footprint := by
  cases c with
  | on e =>
    have told := site.edge?_of_on standard entered
    rcases Walk.joinOn_eq kind site.left site.right e (e.walk .mention) r s with
      ⟨edge, he, h⟩ | ⟨he, h⟩
    · rw [JoinConstraint.walk, h]
      exact .single_of_some (told.trans he) rfl (List.Subset.refl _)
    · have reading := e.walk_reading .mention
      have kept := reading.notices r (s.unsupported (noEdgeMessage e))
      rw [JoinConstraint.walk, h]
      refine .single_of_none (told.trans he) (reading.joins r _)
        (List.Subset.trans (s.footprint.extends_note _).notices.subset kept) fun text ht ↦ ?_
      rw [Join.complaint?, standard] at ht
      cases ht
      exact kept (s.footprint.mem_notices_note _)
  | usingColumns columns =>
    refine .note (site.edge?_of_ne_on standard (by rintro _ _ ⟨⟩)) ?_
    rw [Join.complaint?, standard]
  | natural =>
    refine .note (site.edge?_of_ne_on standard (by rintro _ _ ⟨⟩)) ?_
    rw [Join.complaint?, standard]
  | none =>
    refine .single_of_none (site.edge?_of_ne_on standard (by rintro _ _ ⟨⟩)) rfl
      (List.Subset.refl _) ?_
    rw [Join.complaint?, standard]
    rintro _ ⟨⟩

theorem JoinOperator.joined {site : JoinSite} {o : JoinOperator}
    (operator : site.join.operator = o) (r : Reach) {s : Scope}
    (entered : s.visible = site.entered) :
    Joined [site] s.footprint (o.walk site.left site.right site.join.render r s).footprint := by
  have standard := congrArg JoinOperator.standard? operator
  cases o with
  | inner c => exact c.joined standard r entered
  | left c => exact c.joined standard r entered
  | right c => exact c.joined standard r entered
  | full c => exact c.joined standard r entered
  | cross => exact JoinConstraint.none.joined standard r entered
  | special words matching c =>
    refine .note (site.edge?_of_ne_on standard (by rintro _ _ ⟨⟩)) ?_
    rw [Join.complaint?, standard]
    rfl

mutual

theorem TableFactor.joined (r : Reach) : ∀ (t : TableFactor) (s : Scope),
    Joined (t.sites s.visible) s.footprint (t.walk r s).2.footprint
  | .table _ _ _ _, _ => .none rfl (List.Subset.refl _)
  | .derived _ query none, s =>
    have nested := Walk.Reading.query query
    .none (nested.joins r s) (nested.notices r s)
  | .derived _ query (some _), s =>
    have nested := Walk.Reading.query query
    .none (nested.joins r s) (nested.notices r s)
  | .nestedJoin joined none, s => joined.joined r s
  | .nestedJoin joined (some a), s => (joined.joined r s).addTable a.toTableUse
  | .special _ _ _, s => .none rfl (s.footprint.extends_note _).notices.subset

theorem TableWithJoins.joined (r : Reach) : ∀ (t : TableWithJoins) (s : Scope),
    Joined (t.sites s.visible) s.footprint (t.walk r s).2.footprint
  | ⟨relation, joins⟩, s => by
    have rest := joined_walkJoins r relation.owner? joins (relation.walk r s).2
    rw [relation.visible_walk r s] at rest
    rw [TableWithJoins.scope_walk]
    exact (relation.joined r s).append rest

theorem joined_walkJoins (r : Reach) (left : Option String) : ∀ (js : List Join) (s : Scope),
    Joined (sitesOfJoins s.visible left js) s.footprint (walkJoins left js r s).footprint
  | [], s => .none rfl (List.Subset.refl _)
  | ⟨global, relation, operator⟩ :: js, s => by
    let site : JoinSite :=
      ⟨⟨global, relation, operator⟩, s.visible ++ relation.registered, left, relation.owner?⟩
    have entered : (relation.walk r s).2.visible = site.entered := relation.visible_walk r s
    have edge := JoinOperator.joined (show site.join.operator = operator from rfl) r entered
    have rest := joined_walkJoins r relation.owner? js
      (operator.walk left relation.owner? site.join.render r (relation.walk r s).2)
    rw [operator.visible_walk, entered] at rest
    rw [walkJoins_cons]
    exact (relation.joined r s).append (edge.append rest)

end

theorem Join.complaint?_eq_none_iff {j : Join} :
    j.complaint? = none ↔ ∃ kind, j.operator.standard? = some (kind, .none) := by
  unfold Join.complaint?
  split <;> simp_all

/-- In any scope, the joins of an item of `FROM` make their edges one after the other, exactly one
for each join that makes any, and each other join leaves its notice, unless it is of a standard kind
and has no condition. -/
theorem TableWithJoins.edges_walk (t : TableWithJoins) (r : Reach) (s : Scope) :
    ∃ edge? : JoinSite → Option JoinEdge, (∀ site e, edge? site = some e ↔ site.Makes e) ∧
      (t.walk r s).2.footprint.joins =
        s.footprint.joins ++ (t.sites s.visible).filterMap edge? ∧
      ∀ site ∈ t.sites s.visible, edge? site = none →
        (∃ kind, site.join.operator.standard? = some (kind, .none)) ∨
          ∃ text ∈ site.join.complaint?,
            ⟨.unsupportedConstruct, text⟩ ∈ (t.walk r s).2.footprint.notices := by
  have joined := t.joined r s
  refine ⟨JoinSite.edge?, fun _ _ ↦ JoinSite.edge?_eq_some_iff, joined.joins, ?_⟩
  intro site hs plain
  cases ht : site.join.complaint? with
  | none => exact .inl (Join.complaint?_eq_none_iff.1 ht)
  | some text => exact .inr ⟨text, rfl, joined.told site hs plain text ht⟩

/-- In `FROM a LEFT JOIN (b JOIN c ON (b.x = c.y)) ON k = c.z JOIN d USING (k)` the join in
parentheses comes first, the bare column belongs to `a`, and the last join leaves a notice. -/
theorem TableWithJoins.edges_walk_sample :
    let named (name : String) : TableFactor := .table [⟨name, none⟩] [] none []
    let column (path name : String) : Expr := .column [⟨path, none⟩] ⟨name, none⟩
    let within : Expr := .nested (.binary (column "b" "x") (.compare .eq) (column "c" "y"))
    let on : Expr := .binary (.column [] ⟨"k", none⟩) (.compare .eq) (column "c" "z")
    let last : Join := ⟨false, named "d", .inner (.usingColumns [⟨"k", none⟩])⟩
    let t : TableWithJoins := ⟨named "a",
      [⟨false, .nestedJoin ⟨named "b", [⟨false, named "c", .inner (.on within)⟩]⟩ none,
        .left (.on on)⟩, last]⟩
    let f := (t.walk ⟨[], 0, 9⟩ (.start .select "")).2.footprint
    f.joins = [⟨.inner, "b", "c", "x", "y", some "(b.x = c.y)"⟩,
      ⟨.left, "a", "c", "k", "z", some "k = c.z"⟩] ∧
    ∃ site ∈ t.sites [], site.join = last ∧ (∀ e, ¬site.Makes e) ∧
      ⟨.unsupportedConstruct, "INNER join with USING is not modeled as a join edge"⟩ ∈
        f.notices := by
  intro named column within on last t f
  have makesNone (site : JoinSite) (hs : site.join = last) (e : JoinEdge) : ¬site.Makes e := by
    rintro ⟨standard, -⟩
    rw [hs] at standard
    cases standard
  obtain ⟨edge?, makes, -, told⟩ := t.edges_walk ⟨[], 0, 9⟩ (.start .select "")
  have listed : ∃ site ∈ t.sites [], site.join = last :=
    ⟨_, List.mem_of_getLast? rfl, rfl⟩
  obtain ⟨site, hs, same⟩ := listed
  refine ⟨by decide +kernel, site, hs, same, makesNone site same, ?_⟩
  have plain : edge? site = none :=
    Option.eq_none_iff_forall_ne_some.2 fun e he ↦ makesNone site same e ((makes site e).1 he)
  rcases told site hs plain with ⟨kind, free⟩ | ⟨text, ht, noted⟩
  · rw [same] at free
    cases free
  · rw [same] at ht
    cases ht
    exact noted

/-! ## Equalities that are turned round -/

/-- Joins that come before others do not depend on them. -/
theorem exists_sitesOfJoins_append (entered : List TableUse) (left : Option String)
    (before : List Join) : ∃ left', ∀ js, sitesOfJoins entered left (before ++ js) =
      sitesOfJoins entered left before ++
        sitesOfJoins (entered ++ registeredByJoins before) left' js := by
  induction before generalizing entered left with
  | nil => exact ⟨left, fun js ↦ by rw [registeredByJoins, List.append_nil]; rfl⟩
  | cons j before ih =>
    obtain ⟨global, relation, operator⟩ := j
    obtain ⟨left', h⟩ := ih (entered ++ relation.registered) relation.owner?
    refine ⟨left', fun js ↦ ?_⟩
    rw [List.cons_append, sitesOfJoins, sitesOfJoins, h, registeredByJoins, List.append_assoc,
      List.append_assoc, List.cons_append]

/-- The sites of a chain around one of its joins do not depend on the operator of that join. -/
theorem TableWithJoins.exists_sites_eq (base relation : TableFactor) (before after : List Join)
    (global : Bool) (entered : List TableUse) : ∃ pre left post, ∀ o : JoinOperator,
      TableWithJoins.sites entered ⟨base, before ++ ⟨global, relation, o⟩ :: after⟩ =
        pre ++ ⟨⟨global, relation, o⟩, entered ++ TableWithJoins.registered ⟨base, before⟩ ++
          relation.registered, left, relation.owner?⟩ :: post := by
  obtain ⟨left, h⟩ :=
    exists_sitesOfJoins_append (entered ++ base.registered) base.owner? before
  refine ⟨base.sites entered ++ sitesOfJoins (entered ++ base.registered) base.owner? before ++
      relation.sites (entered ++ TableWithJoins.registered ⟨base, before⟩), left,
    sitesOfJoins (entered ++ TableWithJoins.registered ⟨base, before⟩ ++ relation.registered)
      relation.owner? after, fun o ↦ ?_⟩
  rw [TableWithJoins.sites, h, sitesOfJoins, TableWithJoins.registered]
  simp only [List.append_assoc]

/-- The edge of an equality of qualified columns runs from left to right. -/
theorem JoinSite.edge?_of_qualified {site : JoinSite} {kind : JoinKind} {on : Expr}
    {p q a b left right : String} (standard : site.join.operator.standard? = some (kind, .on on))
    (equality : on.equiJoin? = some (⟨some p, a⟩, ⟨some q, b⟩))
    (hp : (TableUse.find? site.entered.reverse p).map TableUse.name = some left)
    (hq : (TableUse.find? site.entered.reverse q).map TableUse.name = some right) :
    site.edge? = some ⟨kind, left, right, a, b, some on.render⟩ := by
  rw [JoinSite.edge?_of_on (s := ⟨.empty .select "", site.entered⟩) standard rfl, joinEdge?,
    equality]
  simp only [sideTable?, Scope.ownTable?, hp, hq]

/-- A join equates a column that names a relation before it with one that names the relation it
joins. If the equality is turned round, its edge is turned round, and nothing else: the edge has the
same kind, and it is among the same other edges. -/
theorem TableWithJoins.edges_walk_turned {base relation : TableFactor} {before after : List Join}
    {global : Bool} {o o' : JoinOperator} {kind : JoinKind} {on on' : Expr}
    {p q a b left right : String} (r : Reach) (s : Scope)
    (standard : o.standard? = some (kind, .on on))
    (standard' : o'.standard? = some (kind, .on on'))
    (equality : on.equiJoin? = some (⟨some p, a⟩, ⟨some q, b⟩))
    (turned : on'.equiJoin? = some (⟨some q, b⟩, ⟨some p, a⟩))
    (joined : relation.owner? = some right) :
    let entered := s.visible ++ TableWithJoins.registered ⟨base, before⟩ ++ relation.registered
    (TableUse.find? entered.reverse p).map TableUse.name = some left →
    (TableUse.find? entered.reverse q).map TableUse.name = relation.owner? →
    ∃ first rest : List JoinEdge,
      (TableWithJoins.walk ⟨base, before ++ ⟨global, relation, o⟩ :: after⟩ r
        s).2.footprint.joins = s.footprint.joins ++
          (first ++ ⟨kind, left, right, a, b, some on.render⟩ :: rest) ∧
      (TableWithJoins.walk ⟨base, before ++ ⟨global, relation, o'⟩ :: after⟩ r
        s).2.footprint.joins = s.footprint.joins ++
          (first ++ ⟨kind, right, left, b, a, some on'.render⟩ :: rest) := by
  intro entered hp hq
  rw [joined] at hq
  obtain ⟨pre, previous, post, sites⟩ :=
    TableWithJoins.exists_sites_eq base relation before after global s.visible
  -- All edges but one come from the same sites.
  have edges (o : JoinOperator) (e : JoinEdge)
      (edge : JoinSite.edge? ⟨⟨global, relation, o⟩, entered, previous, relation.owner?⟩ = some e) :
      (TableWithJoins.walk ⟨base, before ++ ⟨global, relation, o⟩ :: after⟩ r
        s).2.footprint.joins = s.footprint.joins ++
          (pre.filterMap JoinSite.edge? ++ e :: post.filterMap JoinSite.edge?) := by
    rw [(TableWithJoins.joined r _ s).joins, sites, List.filterMap_append,
      List.filterMap_cons_some edge]
  exact ⟨_, _, edges o _ (JoinSite.edge?_of_qualified standard equality hp hq),
    edges o' _ (JoinSite.edge?_of_qualified standard' turned hq hp)⟩

/-- In `FROM a JOIN b ON a.k = b.k LEFT JOIN c AS d ON b.x = d.y` the last equality is turned
round. -/
theorem TableWithJoins.edges_walk_turned_sample :
    let named (name : String) (aliasName : Option TableAlias) : TableFactor :=
      .table [⟨name, none⟩] [] aliasName []
    let column (path name : String) : Expr := .column [⟨path, none⟩] ⟨name, none⟩
    let first : Join := ⟨false, named "b" none,
      .inner (.on (.binary (column "a" "k") (.compare .eq) (column "b" "k")))⟩
    let chain (on : Expr) : TableWithJoins :=
      ⟨named "a" none, [first, ⟨false, named "c" (some ⟨⟨"d", none⟩, []⟩), .left (.on on)⟩]⟩
    let edges (on : Expr) : List JoinEdge :=
      ((chain on).walk ⟨[], 0, 9⟩ (.start .select "")).2.footprint.joins
    let on : Expr := .binary (column "b" "x") (.compare .eq) (column "d" "y")
    let turned : Expr := .binary (column "d" "y") (.compare .eq) (column "b" "x")
    ∃ others rest : List JoinEdge,
      edges on = others ++ ⟨.left, "b", "c", "x", "y", some "b.x = d.y"⟩ :: rest ∧
      edges turned = others ++ ⟨.left, "c", "b", "y", "x", some "d.y = b.x"⟩ :: rest := by
  intro named column first chain edges on turned
  obtain ⟨others, rest, straight, back⟩ := @TableWithJoins.edges_walk_turned
    (named "a" none) (named "c" (some ⟨⟨"d", none⟩, []⟩)) [first] [] false (.left (.on on))
    (.left (.on turned)) .left on turned "b" "d" "x" "y" "b" "c" ⟨[], 0, 9⟩ (.start .select "")
    rfl rfl rfl rfl rfl (by decide +kernel) (by decide +kernel)
  exact ⟨others, rest, straight, back⟩

/-- In `FROM a LEFT JOIN b ON b.y = a.x` the relation that is joined is on the left of the edge. -/
theorem TableWithJoins.left_join_turned :
    let named (name : String) : TableFactor := .table [⟨name, none⟩] [] none []
    let x : Expr := .column [⟨"a", none⟩] ⟨"x", none⟩
    let y : Expr := .column [⟨"b", none⟩] ⟨"y", none⟩
    let edges (l r : Expr) : List JoinEdge :=
      (TableWithJoins.walk ⟨named "a",
        [⟨false, named "b", .left (.on (.binary l (.compare .eq) r))⟩]⟩ ⟨[], 0, 9⟩
          (.start .select "")).2.footprint.joins
    edges x y = [⟨.left, "a", "b", "x", "y", some "a.x = b.y"⟩] ∧
      edges y x = [⟨.left, "b", "a", "y", "x", some "b.y = a.x"⟩] ∧
      (edges x y).map JoinEdge.rightTable ≠ (edges y x).map JoinEdge.rightTable := by
  decide +kernel

end Sql

end SqlFootprint
