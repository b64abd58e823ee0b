import SqlFootprint.Proofs.Extraction.Branches
import SqlFootprint.Proofs.Extraction.Sightings
import SqlFootprint.Proofs.Sql.Rewriting

/-!
# Qualifying the columns of a single table

Where a query reads a single table, a reference without a qualifier can mean no other one. If the
qualifier is written, the walk records the same columns, but under the name of the table: once every
column without a table is settled in the only one there is, nothing tells the two apart.
-/

namespace SqlFootprint

/-! ## References -/

namespace TableUse

/-- Whether a qualifier is the alias or the name of a table. -/
def isMeantBy (t : TableUse) (qualifier : String) : Bool :=
  t.hasAlias qualifier || t.hasName qualifier

theorem find?_singleton (t : TableUse) (qualifier : String) :
    find? [t] qualifier = if t.isMeantBy qualifier then some t else none := by
  rw [find?, List.find?_singleton, List.find?_singleton, isMeantBy]
  cases t.hasAlias qualifier <;> cases t.hasName qualifier <;> rfl

end TableUse

/-- Where one table is visible, a qualifier means it or stands for itself. -/
theorem Scope.resolve_singleton (f : Footprint) (t : TableUse) (qualifier : String) :
    (⟨f, [t]⟩ : Scope).resolve [] qualifier =
      if t.isMeantBy qualifier then t.name else qualifier := by
  have own : (⟨f, [t]⟩ : Scope).ownTable? qualifier = TableUse.find? [t] qualifier := rfl
  rw [resolve, own, t.find?_singleton]
  split_ifs <;> rfl

/-- A column with the table that it can only belong to. -/
def ColumnUse.settle (table : String) (c : ColumnUse) : ColumnUse :=
  { c with table := some (c.table.getD table) }

def ColumnRef.qualify (qualifier : String) (c : ColumnRef) : ColumnRef :=
  { c with qualifier := c.qualifier.or (some qualifier) }

namespace Sql

/-- Writes a qualifier before each column that has none. -/
def qualification (qualifier : Ident) : Rewriting where
  column path name := .column (if path.isEmpty then [qualifier] else path) name

namespace Sighting

def qualify (qualifier : String) (s : Sighting) : Sighting :=
  { s with
    sight := match s.sight with
      | .reference c => .reference (c.qualify qualifier)
      | .query q => .query q }

/-- What is met is a reference. If its qualifier is the empty name, that is the table's. -/
def isPlain (t : TableUse) (s : Sighting) : Bool :=
  match s.sight with
  | .reference c => c.qualifier.all fun q ↦ q ≠ "" || t.isMeantBy q
  | .query _ => false

theorem isPlain_qualify {t : TableUse} {qualifier : String} (means : t.isMeantBy qualifier)
    (s : Sighting) : (s.qualify qualifier).isPlain t = s.isPlain t := by
  obtain ⟨sight, depth, marked⟩ := s
  cases sight with
  | reference c =>
    obtain ⟨own, column⟩ := c
    cases own with
    | none => simp [isPlain, qualify, ColumnRef.qualify, means]
    | some own => rfl
  | query q => rfl

end Sighting

/-- A path gets the qualifier if it is empty. -/
theorem getLast?_qualified (qualifier : Ident) (path : List Ident) :
    (if path.isEmpty then [qualifier] else path).getLast?.map Ident.text =
      (path.getLast?.map Ident.text).or (some qualifier.text) := by
  cases path with
  | nil => rfl
  | cons i path =>
    rw [List.getLast?_eq_some_getLast (List.cons_ne_nil i path), Option.map_some, Option.some_or,
      List.isEmpty_cons, if_neg Bool.false_ne_true,
      List.getLast?_eq_some_getLast (List.cons_ne_nil i path), Option.map_some]

theorem Expr.columnRef?_qualified (qualifier : Ident) (e : Expr) :
    (e.rewrite (qualification qualifier)).columnRef? =
      e.columnRef?.map (·.qualify qualifier.text) := by
  fun_induction Expr.columnRef? e with
  | case1 path name =>
    rw [rewrite, qualification, columnRef?, getLast?_qualified]
    rfl
  | case2 inner ih => exact ih
  | case3 e notColumn notNested =>
    cases e with
    | column path name => exact absurd rfl (notColumn path name)
    | nested inner => exact absurd rfl (notNested inner)
    | _ => rfl

open Sighting (deeper mentioned joined)

namespace Sighting

variable (qualifier : String) (a b : List Sighting)

theorem map_qualify_deeper :
    (deeper a).map (·.qualify qualifier) = deeper (a.map (·.qualify qualifier)) := by
  rw [deeper, deeper, List.map_map, List.map_map]
  rfl

theorem map_qualify_mentioned :
    (mentioned a).map (·.qualify qualifier) = mentioned (a.map (·.qualify qualifier)) := by
  rw [mentioned, mentioned, List.map_map, List.map_map]
  rfl

theorem map_qualify_joined (op : BinaryOp) :
    (joined op a b).map (·.qualify qualifier) =
      joined op (a.map (·.qualify qualifier)) (b.map (·.qualify qualifier)) := by
  cases op with
  | and | or => exact List.map_append
  | compare c | other spelling => exact (map_qualify_deeper _ _).trans (congrArg _ List.map_append)

theorem seen_map_qualify (r : Reach) :
    seen r (a.map (·.qualify qualifier)) = (seen r a).map (·.qualify qualifier) := by
  rw [seen, List.filter_map]
  refine congrArg _ (List.filter_congr fun s _ ↦ ?_)
  obtain ⟨sight, depth, marked⟩ := s
  cases sight <;> rfl

end Sighting

open Sighting (map_qualify_deeper map_qualify_mentioned map_qualify_joined)

/-- In a qualified expression the same is met, but with qualifiers. -/
theorem keeps_qualification (qualifier : Ident) :
    (qualification qualifier).Keeps fun a b ↦ a.map (·.qualify qualifier.text) = b where
  nil := rfl
  append := by
    rintro a b _ _ rfl rfl
    exact List.map_append
  deeper := by
    rintro a _ rfl
    exact map_qualify_deeper _ a
  mentioned := by
    rintro a _ rfl
    exact map_qualify_mentioned _ a
  query q := rfl
  column path name := by
    rw [qualification, Expr.sightings, Expr.sightings, getLast?_qualified]
    rfl
  group := by
    intro a e he
    rw [map_qualify_deeper, he]
    rfl
  binary := by
    rintro a b op left right hl hr
    rw [map_qualify_joined, hl, hr]
    rfl
  between := by
    rintro a b c negated operand low high ho hl hh
    rw [map_qualify_deeper, List.map_append, map_qualify_mentioned, List.map_append, ho, hl, hh]
    rfl
  inList := by
    rintro a b negated operand items ho hi
    rw [map_qualify_deeper, List.map_append, map_qualify_mentioned, ho, hi]
    rfl

end Sql

open Sql (Sighting)

/-! ## What is found -/

namespace Sql.Sighting

variable {t : TableUse} {s : Sighting}

theorem isPlain_iff :
    s.isPlain t ↔ ∃ c, s.sight = .reference c ∧
      c.qualifier.all fun q ↦ q ≠ "" || t.isMeantBy q := by
  unfold isPlain
  cases s.sight with
  | reference c => simp
  | query q => simp

theorem footprints_of_isPlain (h : s.isPlain t) (r : Reach) (visible : List TableUse) :
    s.footprints r visible = [] := by
  obtain ⟨c, hs, -⟩ := isPlain_iff.1 h
  rw [footprints, hs]

theorem footprints_qualify (qualifier : String) (r : Reach) (visible : List TableUse) :
    (s.qualify qualifier).footprints r visible = s.footprints r visible := by
  obtain ⟨sight, depth, marked⟩ := s
  cases sight <;> rfl

end Sql.Sighting

/-- Two walks have found columns only, and the same ones once they are settled in a table. None is
under the empty name, unless that is the table's. -/
structure Findings.SameSettled (t : TableUse) (a b : Findings) : Prop where
  columns : a.columns.map (·.settle t.name) = b.columns.map (·.settle t.name)
  named : ∀ c ∈ a.columns.map (·.settle t.name), ¬c.isWildcard → c.table = some "" → t.name = ""
  left : a.tables = [] ∧ a.ctes = [] ∧ a.subqueries = []
  right : b.tables = [] ∧ b.ctes = [] ∧ b.subqueries = []

namespace Findings.SameSettled

variable {t : TableUse} {a b c d : Findings}

theorem append (h : SameSettled t a b) (k : SameSettled t c d) :
    SameSettled t (a ++ c) (b ++ d) where
  columns := by simp only [Findings.columns_append, List.map_append, h.columns, k.columns]
  named := by
    rw [Findings.columns_append, List.map_append]
    exact List.forall_mem_append.2 ⟨h.named, k.named⟩
  left := by simp [h.left, k.left]
  right := by simp [h.right, k.right]

end Findings.SameSettled

/-- A reference means the same column with the qualifier as without one. -/
theorem ColumnRef.settle_use_qualify {t : TableUse} {qualifier : String}
    (means : t.isMeantBy qualifier) (c : ColumnRef) (role : Role) (aliasName : Option String) :
    ({ (c.qualify qualifier).use role [] [t] with aliasName } : ColumnUse).settle t.name =
      ({ c.use role [] [t] with aliasName } : ColumnUse).settle t.name := by
  obtain ⟨own, column⟩ := c
  cases own with
  | none =>
    simp [use, qualify, ColumnUse.settle, Scope.resolve_singleton, means]
  | some own => rfl

theorem ColumnRef.name_eq_of_settle {t : TableUse} {c : ColumnRef}
    (plain : c.qualifier.all fun q ↦ q ≠ "" || t.isMeantBy q) (role : Role)
    (h : ((c.use role [] [t]).settle t.name).table = some "") : t.name = "" := by
  obtain ⟨own, column⟩ := c
  cases own with
  | none => exact Option.some.inj h
  | some own =>
    simp only [use, ColumnUse.settle, Option.map_some, Option.getD_some, Scope.resolve_singleton,
      Option.some.injEq] at h
    split_ifs at h with means
    · exact h
    · subst h
      simp [means] at plain

namespace Walk

/-- Where one table is visible, two walks find the same settled columns. -/
def SameSettled (t : TableUse) (v w : Walk) : Prop :=
  ∀ depth limit, ∃ a b, Finds v ⟨[], depth, limit⟩ [t] a [] ∧ Finds w ⟨[], depth, limit⟩ [t] b [] ∧
    a.SameSettled t b

namespace SameSettled

variable {t : TableUse} {v w : Walk} {vs ws : List Walk}

theorem cons (h : SameSettled t v w) (k : SameSettled t (.all vs) (.all ws)) :
    SameSettled t (.all (v :: vs)) (.all (w :: ws)) := by
  intro depth limit
  obtain ⟨a, b, va, wb, same⟩ := h depth limit
  obtain ⟨c, d, vc, wd, same'⟩ := k depth limit
  exact ⟨a ++ c, b ++ d, va.andThen vc, wb.andThen wd, same.append same'⟩

theorem skip : SameSettled t .skip .skip :=
  fun _ _ ↦ ⟨{}, {}, .skip _ _, .skip _ _, rfl, fun _ listed ↦ absurd listed List.not_mem_nil,
    ⟨rfl, rfl, rfl⟩, ⟨rfl, rfl, rfl⟩⟩

theorem pair {v' w' : Walk} (h : SameSettled t v w) (k : SameSettled t v' w') :
    SameSettled t (.all [v, v']) (.all [w, w']) :=
  h.cons (k.cons skip)

/-- An expression and its qualified form. -/
theorem of_sees {a : List Sighting} {role : Role} {qualifier : String}
    (means : t.isMeantBy qualifier) (hv : Sees a role v)
    (hw : Sees (a.map (·.qualify qualifier)) role w) (plain : ∀ s ∈ a, s.isPlain t) :
    SameSettled t v w := by
  intro depth limit
  obtain ⟨found, finds, shown⟩ := hv ⟨[], depth, limit⟩ [t]
  obtain ⟨found', finds', shown'⟩ := hw ⟨[], depth, limit⟩ [t]
  have near : ∀ s ∈ Sighting.seen ⟨[], depth, limit⟩ a, s.isPlain t :=
    fun s hs ↦ plain s (List.mem_of_mem_filter hs)
  have single : found.subqueries = [] := by
    rw [shown.subqueries, List.flatMap_eq_nil_iff]
    exact fun s hs ↦ Sighting.footprints_of_isPlain (near s hs) _ _
  have single' : found'.subqueries = [] := by
    rw [shown'.subqueries, Sighting.seen_map_qualify, List.flatMap_map, List.flatMap_eq_nil_iff]
    intro s hs
    rw [Sighting.footprints_qualify]
    exact Sighting.footprints_of_isPlain (near s hs) _ _
  refine ⟨found, found', finds, finds',
    { columns := ?_, named := ?_
      left := ⟨by rw [shown.tables, single]; rfl, shown.ctes, single⟩
      right := ⟨by rw [shown'.tables, single']; rfl, shown'.ctes, single'⟩ }⟩
  · rw [shown.columns, shown'.columns, Sighting.seen_map_qualify, List.flatMap_map,
      List.map_flatMap, List.map_flatMap]
    refine List.flatMap_congr fun s hs ↦ ?_
    obtain ⟨sight, depth, marked⟩ := s
    obtain ⟨c, rfl, -⟩ := Sighting.isPlain_iff.1 (near _ hs)
    exact congrArg ([·]) (c.settle_use_qualify means _ none).symm
  · rw [List.forall_mem_map, shown.columns]
    intro c hc _ named
    obtain ⟨⟨sight, depth, marked⟩, hs, hc⟩ := List.mem_flatMap.1 hc
    obtain ⟨c', rfl, plain⟩ := Sighting.isPlain_iff.1 (near _ hs)
    rw [List.mem_singleton.1 hc] at named
    exact c'.name_eq_of_settle plain _ named

theorem recordRef {qualifier : String} (means : t.isMeantBy qualifier) {c : ColumnRef}
    (plain : c.qualifier.all fun q ↦ q ≠ "" || t.isMeantBy q) (role : Role)
    (aliasName : Option String) :
    SameSettled t (.recordRef c role aliasName) (.recordRef (c.qualify qualifier) role aliasName) :=
  fun _ _ ↦ ⟨_, _, .recordRef c role aliasName _ [t], .recordRef _ role aliasName _ [t],
    { columns := congrArg ([·]) (c.settle_use_qualify means role aliasName).symm
      named := List.forall_mem_singleton.2 fun _ ↦ c.name_eq_of_settle plain role
      left := ⟨rfl, rfl, rfl⟩
      right := ⟨rfl, rfl, rfl⟩ }⟩

/-- A wildcard stays as it is. -/
theorem wildcard (qualifier : Option String) :
    SameSettled t (.recordRef ⟨qualifier, "*"⟩ .selected none)
      (.recordRef ⟨qualifier, "*"⟩ .selected none) :=
  fun _ _ ↦ ⟨_, _, .recordRef _ _ _ _ [t], .recordRef _ _ _ _ [t],
    { columns := rfl
      named := List.forall_mem_singleton.2 fun other ↦ absurd rfl other
      left := ⟨rfl, rfl, rfl⟩
      right := ⟨rfl, rfl, rfl⟩ }⟩

end SameSettled

end Walk

namespace Sql

open Walk (SameSettled)

/-! ## Clauses -/

variable {t : TableUse} {qualifier : Ident}

section

variable (means : t.isMeantBy qualifier.text)

include means

theorem Expr.walk_qualified (m : Mode) {e : Expr} (plain : ∀ s ∈ e.sightings, s.isPlain t) :
    SameSettled t (e.walk m) ((e.rewrite (qualification qualifier)).walk m) := by
  have qualified := (e.rewrite (qualification qualifier)).walk_sees m
  rw [← (keeps_qualification qualifier).sightings e] at qualified
  exact .of_sees means (e.walk_sees m) qualified plain

theorem walkExprs_qualified (m : Mode) {es : List Expr}
    (plain : ∀ s ∈ sightingsOfExprs es, s.isPlain t) :
    SameSettled t (walkExprs m es) (walkExprs m (rewriteExprs (qualification qualifier) es)) := by
  have qualified := walkExprs_sees m (rewriteExprs (qualification qualifier) es)
  rw [← (keeps_qualification qualifier).sightingsOfExprs es] at qualified
  exact .of_sees means (walkExprs_sees m es) qualified plain

theorem walkOption_qualified (m : Mode) {e : Option Expr}
    (plain : ∀ s ∈ sightingsOfOption e, s.isPlain t) :
    SameSettled t (walkOption m e) (walkOption m (rewriteOption (qualification qualifier) e)) := by
  have qualified := walkOption_sees m (rewriteOption (qualification qualifier) e)
  rw [← (keeps_qualification qualifier).sightingsOfOption e] at qualified
  exact .of_sees means (walkOption_sees m e) qualified plain

theorem walkKeys_qualified (m : Mode) {ks : List OrderKey}
    (plain : ∀ s ∈ sightingsOfKeys ks, s.isPlain t) :
    SameSettled t (walkKeys m ks) (walkKeys m (rewriteKeys (qualification qualifier) ks)) := by
  have qualified := walkKeys_sees m (rewriteKeys (qualification qualifier) ks)
  rw [← (keeps_qualification qualifier).sightingsOfKeys ks] at qualified
  exact .of_sees means (walkKeys_sees m ks) qualified plain

theorem SelectItem.walk_qualified {i : SelectItem} (plain : ∀ s ∈ i.sightings, s.isPlain t) :
    SameSettled t i.walk (i.rewrite (qualification qualifier)).walk := by
  cases i with
  | expr e => exact e.walk_qualified means _ plain
  | aliased e aliasName =>
    rw [rewrite, walk, walk, e.columnRef?_qualified]
    cases he : e.columnRef? with
    | none => exact e.walk_qualified means _ plain
    | some c =>
      obtain ⟨s, hs, sight⟩ := e.exists_sighting_of_columnRef? he
      obtain ⟨c', hc, named⟩ := Sighting.isPlain_iff.1 (plain s hs)
      obtain rfl := Sight.reference.inj (sight.symm.trans hc)
      exact .recordRef means named _ _
  | wildcard options => exact .wildcard none
  | qualifiedWildcard name options =>
    have recorded (options : List Piece) : (qualifiedWildcard name options).walk =
        .recordRef ⟨name.getLast?.map Ident.text, "*"⟩ .selected none := by
      funext r s
      rw [SelectItem.walk, Walk.recordRef, Option.map_map]
      rfl
    rw [rewrite, recorded, recorded]
    exact .wildcard _

theorem walkItems_qualified {is : List SelectItem}
    (plain : ∀ s ∈ is.flatMap SelectItem.sightings, s.isPlain t) :
    SameSettled t (walkItems is) (walkItems (is.map (·.rewrite (qualification qualifier)))) := by
  induction is with
  | nil => exact .skip
  | cons i is ih =>
    rw [List.flatMap_cons, List.forall_mem_append] at plain
    exact .pair (i.walk_qualified means plain.1) (ih plain.2)

theorem Grouping.walk_qualified {g : Grouping} (plain : ∀ s ∈ g.sightings, s.isPlain t) :
    SameSettled t g.walk (g.rewrite (qualification qualifier)).walk := by
  cases g with
  | all modifiers => exact .skip
  | keys exprs modifiers => exact walkExprs_qualified means _ plain

end

/-! ## Queries -/

/-- A query that is a single selection from a table without joins, and has no `WITH` clause. -/
def Query.IsOver (t : TableUse) : Query → Prop
  | ⟨_, [], .select s, _, _⟩ => ∃ name arguments aliasName tail,
    s.sources = [⟨.table name arguments aliasName tail, []⟩] ∧
      name.toTableUse (aliasName.map (·.name.text)) = t
  | _ => False

/-- The walk of the clauses of a query that is a single selection, apart from `FROM`. -/
def Query.clauseWalk : Query → Walk
  | ⟨_, _, .select s, order, _⟩ =>
    .all [walkItems s.projection, walkOption .predicate s.filter, s.grouping.walk,
      walkOption ⟨.filtered, false⟩ s.having, walkKeys ⟨.filtered, false⟩ order]
  | _ => .skip

/-- What stands in `FROM` is not rewritten. -/
theorem Query.isOver_rewrite {h : Rewriting} {q : Query} :
    (q.rewrite h).IsOver t ↔ q.IsOver t := by
  obtain ⟨recursive, ctes, body, order, tail⟩ := q
  cases ctes <;> cases body <;> rfl

theorem Query.clauseWalk_qualified (means : t.isMeantBy qualifier.text) {q : Query}
    (plain : ∀ s ∈ q.sightings, s.isPlain t) :
    SameSettled t q.clauseWalk (q.rewrite (qualification qualifier)).clauseWalk := by
  obtain ⟨recursive, ctes, body, order, tail⟩ := q
  cases body with
  | select s =>
    simp only [Query.sightings, Select.sightings, List.forall_mem_append] at plain
    obtain ⟨⟨items, filter, grouping, groups⟩, order⟩ := plain
    have rest := SameSettled.pair (walkOption_qualified means ⟨.filtered, false⟩ groups)
      (walkKeys_qualified means ⟨.filtered, false⟩ order)
    have clauses := (walkOption_qualified means .predicate filter).cons
      ((Grouping.walk_qualified means grouping).cons rest)
    exact (walkItems_qualified means items).cons clauses
  | _ => exact .skip

end Sql

/-- A footprint of some columns where a single table is read, without nested footprints. Where it
was cut off at the limit it is empty. -/
structure Footprint.IsSingle (t : TableUse) (columns : List ColumnUse) (f : Footprint) : Prop where
  tables : f.tables = [t] ∨ f.tables = [] ∧ columns = []
  merged : f.columns = ColumnUse.recordAll [] columns
  ctes : f.ctes = []
  subqueries : f.subqueries = []
  fresh : ∀ c ∈ columns, c.standing = (none, none)
  named : ∀ c ∈ columns.map (·.settle t.name), ¬c.isWildcard → c.table = some "" → t.name = ""

/-- The footprint of a query over a table is of the columns that its clauses find. -/
theorem Sql.Query.isSingle_ofStatement {t : TableUse} {q : Sql.Query} (reads : q.IsOver t)
    {limit : Nat} (within : 0 < limit) {a : Findings}
    (finds : Walk.Finds q.clauseWalk ⟨[], 1, limit⟩ [t] a [])
    (only : a.tables = [] ∧ a.ctes = [] ∧ a.subqueries = [])
    (named : ∀ c ∈ a.columns.map (·.settle t.name),
      ¬c.isWildcard → c.table = some "" → t.name = "") (text : String) :
    (Footprint.ofStatement limit (.query q) text).IsSingle t a.columns := by
  obtain ⟨recursive, ctes, body, order, tail⟩ := q
  cases ctes with
  | cons => cases body <;> cases reads
  | nil =>
    cases body with
    | select s =>
      obtain ⟨head, projection, into, sources, views, filter, grouping, layout, groups, rest⟩ := s
      obtain ⟨name, arguments, aliasName, after, rfl, rfl⟩ := reads
      let t := name.toTableUse (aliasName.map (·.name.text))
      let note : Walk := if recursive then
        .unsupported "WITH RECURSIVE is outside the supported grammar; extracted as a plain CTE"
      else .skip
      -- A note is all that may come before the table.
      obtain ⟨notices, noted⟩ : ∃ notices : List Notice,
          note.Finds ⟨[], 1, limit⟩ [] { notices } [] := by
        unfold note
        split
        · exact ⟨_, .note _ _ _⟩
        · exact ⟨[], .skip _ _⟩
      have walked := noted.andThen ((Walk.Finds.register t _ _).andThen finds)
      have started := (Walk.Finds.deeper_of_lt (r := ⟨[], 0, limit⟩) within "query" walked).eq
        (.empty .select text)
      have extracted : Footprint.ofStatement limit (.query ⟨recursive, [], .select ⟨head, projection,
          into, [⟨.table name arguments aliasName after, []⟩], views, filter, grouping, layout,
          groups, rest⟩, order, tail⟩) text =
            ((Footprint.empty .select text).add ({ notices } ++ ({ tables := [t] } ++ a))).dedup :=
        congrArg Scope.finish started
      obtain ⟨tables, ctes, subqueries⟩ := only
      rw [extracted]
      refine ⟨.inl ?_, ?_, ?_, ?_, finds.fresh, named⟩
      · simp only [Footprint.dedup, Footprint.add, Findings.tables_append, tables]
        rfl
      · exact ColumnUse.recordAll_dedup [] a.columns
      · simp only [Footprint.dedup, Footprint.add, Findings.ctes_append, ctes]
        rfl
      · simp only [Footprint.dedup, Footprint.add, Findings.subqueries_append, subqueries]
        rfl
    | _ => cases reads

/-- Where no level is left there are no columns. -/
theorem Sql.Query.isSingle_ofStatement_zero (t : TableUse) (q : Sql.Query) (text : String) :
    (Footprint.ofStatement 0 (.query q) text).IsSingle t [] := by
  obtain ⟨w, hw, -⟩ := q.walk_composed
  obtain ⟨what, finds⟩ := Walk.Finds.deeper_of_le (r := ⟨[], 0, 0⟩) (Nat.le_refl 0) "query" w []
  rw [← hw] at finds
  have cut := Walk.Finds.ofStatement_eq (s := .query q) finds text
  rw [cut]
  exact ⟨.inr ⟨rfl, rfl⟩, rfl, rfl, rfl, fun _ listed ↦ absurd listed List.not_mem_nil,
    fun _ listed ↦ absurd listed List.not_mem_nil⟩

/-- The footprints of a query over a table and of its qualified form are of the same settled
columns. -/
theorem Sql.Query.exists_isSingle {t : TableUse} {qualifier : Sql.Ident}
    (means : t.isMeantBy qualifier.text) {q : Sql.Query} (reads : q.IsOver t)
    (plain : ∀ s ∈ q.sightings, s.isPlain t) (limit : Nat) (text text' : String) :
    ∃ cs ds, (Footprint.ofStatement limit (.query q) text).IsSingle t cs ∧
      (Footprint.ofStatement limit (.query (q.rewrite (Sql.qualification qualifier)))
        text').IsSingle t ds ∧
      cs.map (·.settle t.name) = ds.map (·.settle t.name) := by
  rcases Nat.eq_zero_or_pos limit with rfl | within
  · exact ⟨[], [], isSingle_ofStatement_zero t q text, isSingle_ofStatement_zero t _ text', rfl⟩
  · obtain ⟨a, b, finds, finds', same⟩ := q.clauseWalk_qualified means plain 1 limit
    have named := same.named
    rw [same.columns] at named
    exact ⟨a.columns, b.columns,
      q.isSingle_ofStatement reads within finds same.left same.named text,
      isSingle_ofStatement (isOver_rewrite.2 reads) within finds' same.right named text',
      same.columns⟩

end SqlFootprint
