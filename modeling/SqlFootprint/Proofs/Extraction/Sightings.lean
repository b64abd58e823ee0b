import SqlFootprint.Proofs.Extraction.Conditions
import SqlFootprint.Proofs.Sql.Sightings

/-!
# The walk of an expression finds what is met in it

What an expression finds is told by what is met in it, as far as that is within reach: a reference
gives a column and a nested query its footprint. What is out of reach is left out, and a notice says
so.
-/

namespace SqlFootprint

/-- A reference as a use of the column that it means where some relations are visible. -/
def ColumnRef.use (c : ColumnRef) (role : Role) (outer visible : List TableUse) : ColumnUse :=
  { name := c.column
    table := c.qualifier.map ((⟨.empty .select "", visible⟩ : Scope).resolve outer)
    roles := .ofRole role }

namespace Sql

namespace Sighting

/-- Whether the levels that are left suffice. To enter a query takes one more. -/
def isWithin (levels : Nat) (s : Sighting) : Bool :=
  match s.sight with
  | .reference _ => s.depth ≤ levels
  | .query _ => s.depth < levels

/-- What is met within the levels that are left. -/
def seen (r : Reach) (sightings : List Sighting) : List Sighting :=
  sightings.filter (isWithin (r.limit - r.depth))

theorem seen_append (r : Reach) (a b : List Sighting) : seen r (a ++ b) = seen r a ++ seen r b :=
  List.filter_append a b

/-- What is out of reach is not seen, and one level down the same is seen. -/
theorem seen_deeper_of_le {r : Reach} (hd : r.limit ≤ r.depth) (a : List Sighting) :
    seen r (deeper a) = [] := by
  refine List.filter_eq_nil_iff.2 fun s hs ↦ ?_
  obtain ⟨t, -, rfl⟩ := List.mem_map.1 hs
  rw [Nat.sub_eq_zero_of_le hd, isWithin]
  split
  · simp
  · simp

theorem isWithin_deeper {r : Reach} (hd : r.depth < r.limit) (s : Sighting) :
    ({ s with depth := s.depth + 1 } : Sighting).isWithin (r.limit - r.depth) =
      s.isWithin (r.limit - (r.depth + 1)) := by
  obtain ⟨sight, depth, marked⟩ := s
  cases sight with
  | reference c =>
    simp only [isWithin, decide_eq_decide]
    omega
  | query q =>
    simp only [isWithin, decide_eq_decide]
    omega

theorem seen_deeper_of_lt {r : Reach} (hd : r.depth < r.limit) (a : List Sighting) :
    seen r (deeper a) = deeper (seen { r with depth := r.depth + 1 } a) := by
  rw [seen, deeper, List.filter_map]
  exact congrArg _ (List.filter_congr fun s _ ↦ isWithin_deeper hd s)

/-- The footprints of what is met. -/
def footprints (r : Reach) (visible : List TableUse) (s : Sighting) : List Footprint :=
  match s.sight with
  | .reference _ => []
  | .query q =>
    [q.footprint .select ⟨visible.reverse ++ r.outer, r.depth + s.depth, r.limit⟩]

/-- The columns of what is met, in an expression that plays a role. -/
def columns (role : Role) (r : Reach) (visible : List TableUse) (s : Sighting) : List ColumnUse :=
  match s.sight with
  | .reference c => [c.use (if s.marked then role else .mentioned) r.outer visible]
  | .query _ => (s.footprints r visible).flatMap Footprint.columns

variable {role : Role} {r : Reach} {visible : List TableUse}

theorem footprints_deeper (a : List Sighting) :
    (deeper a).flatMap (·.footprints r visible) =
      a.flatMap (·.footprints { r with depth := r.depth + 1 } visible) := by
  rw [deeper, List.flatMap_map]
  refine List.flatMap_congr fun s _ ↦ ?_
  rw [footprints, footprints, Nat.add_right_comm, Nat.add_assoc]

theorem columns_deeper (a : List Sighting) :
    (deeper a).flatMap (·.columns role r visible) =
      a.flatMap (·.columns role { r with depth := r.depth + 1 } visible) := by
  rw [deeper, List.flatMap_map]
  refine List.flatMap_congr fun s _ ↦ ?_
  have alike : (deeper [s]).flatMap (·.footprints r visible) = _ := footprints_deeper [s]
  rw [deeper, List.map_singleton, List.flatMap_singleton, List.flatMap_singleton] at alike
  rw [columns, columns, alike]

/-- What is mentioned only plays no role, whatever the role of the expression is. -/
theorem columns_mentioned (a : List Sighting) :
    (mentioned a).flatMap (·.columns role r visible) =
      a.flatMap (·.columns .mentioned r visible) := by
  rw [mentioned, List.flatMap_map]
  refine List.flatMap_congr fun s _ ↦ ?_
  obtain ⟨sight, depth, marked⟩ := s
  cases sight with
  | reference c => cases marked <;> rfl
  | query q => rfl

theorem footprints_mentioned (a : List Sighting) :
    (mentioned a).flatMap (·.footprints r visible) = a.flatMap (·.footprints r visible) :=
  List.flatMap_map ..

theorem seen_mentioned (a : List Sighting) : seen r (mentioned a) = mentioned (seen r a) :=
  List.filter_map

end Sighting

end Sql

open Sql (Sighting)

/-- Some findings are those of what is met in an expression. -/
structure Findings.Shows (sightings : List Sighting) (role : Role) (r : Reach)
    (visible : List TableUse) (found : Findings) : Prop where
  columns : found.columns = (Sighting.seen r sightings).flatMap (·.columns role r visible)
  subqueries : found.subqueries = (Sighting.seen r sightings).flatMap (·.footprints r visible)
  tables : found.tables = found.subqueries.flatMap Footprint.tables
  ctes : found.ctes = []
  /-- Nothing is left out in silence. -/
  complete : (∀ n ∈ found.notices, n.kind ≠ .depthLimitExceeded) →
    ∀ s ∈ sightings, s.isWithin (r.limit - r.depth)

theorem Findings.Shows.append {a b : List Sighting} {role : Role} {r : Reach}
    {visible : List TableUse} {found more : Findings} (h : found.Shows a role r visible)
    (k : more.Shows b role r visible) : (found ++ more).Shows (a ++ b) role r visible where
  columns := by
    rw [Findings.columns_append, h.columns, k.columns, Sighting.seen_append, List.flatMap_append]
  subqueries := by
    rw [Findings.subqueries_append, h.subqueries, k.subqueries, Sighting.seen_append,
      List.flatMap_append]
  tables := by
    rw [Findings.tables_append, Findings.subqueries_append, h.tables, k.tables,
      List.flatMap_append]
  ctes := by rw [Findings.ctes_append, h.ctes, k.ctes, List.append_nil]
  complete whole := by
    obtain ⟨first, second⟩ := List.forall_mem_append.1 whole
    exact List.forall_mem_append.2 ⟨h.complete first, k.complete second⟩

namespace Walk

/-- From everywhere a walk finds what is met in an expression that plays a role. -/
def Sees (sightings : List Sighting) (role : Role) (w : Walk) : Prop :=
  ∀ r visible, ∃ found, Finds w r visible found [] ∧ found.Shows sightings role r visible

namespace Sees

variable {a b : List Sighting} {role : Role} {v w : Walk}

theorem andThen (h : Sees a role v) (k : Sees b role w) : Sees (a ++ b) role (v.andThen w) := by
  intro r visible
  obtain ⟨found, finds, shows_⟩ := h r visible
  obtain ⟨more, finds', shows'⟩ := k r (visible ++ [])
  refine ⟨found ++ more, finds.andThen finds', shows_.append ?_⟩
  rwa [List.append_nil] at shows'

theorem cons {ws : List Walk} (h : Sees a role w) (k : Sees b role (.all ws)) :
    Sees (a ++ b) role (.all (w :: ws)) :=
  h.andThen k

/-- A walk that meets nothing may come first. -/
theorem cons_nil {ws : List Walk} (h : Sees [] role w) (k : Sees b role (.all ws)) :
    Sees b role (.all (w :: ws)) :=
  h.andThen k

/-- Findings of nothing that is met. -/
theorem of_finds {found : Findings} (h : ∀ r visible, Finds w r visible found [])
    (columns : found.columns = []) (subqueries : found.subqueries = [])
    (tables : found.tables = []) (ctes : found.ctes = []) : Sees [] role w :=
  fun r visible ↦ ⟨found, h r visible,
    { columns
      subqueries
      tables := by rw [tables, subqueries]; rfl
      ctes
      complete := fun _ ↦ List.forall_mem_nil _ }⟩

theorem skip : Sees [] role .skip :=
  of_finds Finds.skip rfl rfl rfl rfl

theorem unsupported (message : String) : Sees [] role (.unsupported message) :=
  of_finds (Finds.note _) rfl rfl rfl rfl

theorem condition (text : String) : Sees [] role (.edit (·.addCondition text)) :=
  of_finds (Finds.condition text) rfl rfl rfl rfl

theorem single (h : Sees a role w) : Sees a role (.all [w]) := by
  have k := h.andThen .skip
  rw [List.append_nil] at k
  exact k

theorem pair (h : Sees a role v) (k : Sees b role w) : Sees (a ++ b) role (.all [v, w]) :=
  h.cons k.single

theorem recordRef (c : ColumnRef) (role : Role) :
    Sees [{ sight := .reference c }] role (.recordRef c role none) :=
  fun r visible ↦ ⟨_, .recordRef c role none r visible,
    { columns := rfl
      subqueries := rfl
      tables := rfl
      ctes := rfl
      complete := fun _ ↦ List.forall_mem_singleton.2 rfl }⟩

theorem deeper (what : String) (h : Sees a role w) :
    Sees (Sighting.deeper a) role (.deeper what w) := by
  intro r visible
  rcases Nat.lt_or_ge r.depth r.limit with hd | hd
  · obtain ⟨found, finds, shown⟩ := h { r with depth := r.depth + 1 } visible
    refine ⟨found, .deeper_of_lt hd what finds,
      { columns := ?_, subqueries := ?_, tables := shown.tables, ctes := shown.ctes
        complete := fun whole ↦ ?_ }⟩
    · rw [Sighting.seen_deeper_of_lt hd, Sighting.columns_deeper, shown.columns]
    · rw [Sighting.seen_deeper_of_lt hd, Sighting.footprints_deeper, shown.subqueries]
    · refine List.forall_mem_map.2 fun s hs ↦ ?_
      rw [Sighting.isWithin_deeper hd]
      exact shown.complete whole s hs
  · obtain ⟨text, finds⟩ := Finds.deeper_of_le hd what w visible
    refine ⟨_, finds,
      { columns := ?_, subqueries := ?_, tables := rfl, ctes := rfl
        complete := fun whole ↦ absurd rfl (whole _ (List.mem_singleton_self _)) }⟩
    · rw [Sighting.seen_deeper_of_le hd]
      rfl
    · rw [Sighting.seen_deeper_of_le hd]
      rfl

theorem nested (q : Sql.Query) :
    Sees [{ sight := .query q }] role (.nested .select q.render q.walk .addSubquery) := by
  intro r visible
  rcases Nat.lt_or_ge r.depth r.limit with hd | hd
  · have within : ∀ s ∈ [({ sight := .query q } : Sighting)], s.isWithin (r.limit - r.depth) :=
      List.forall_mem_singleton.2 (decide_eq_true (Nat.sub_pos_of_lt hd))
    have all : Sighting.seen r [{ sight := .query q }] = [{ sight := .query q }] :=
      List.filter_eq_self.2 within
    refine ⟨_, .nested_of_lt hd .elsewhere q visible,
      { columns := ?_, subqueries := ?_, tables := ?_, ctes := rfl, complete := fun _ ↦ within }⟩
    · rw [all]
      simp [Place.findings, Place.kind, Sighting.columns, Sighting.footprints]
    · rw [all]
      rfl
    · simp [Place.findings]
  · have none : Sighting.seen r [{ sight := .query q }] = [] := by
      refine List.filter_eq_nil_iff.2 (List.forall_mem_singleton.2 ?_)
      rw [Nat.sub_eq_zero_of_le hd]
      exact Bool.false_ne_true
    obtain ⟨text, finds⟩ := Finds.nested_of_le hd .elsewhere q visible
    refine ⟨_, finds,
      { columns := ?_, subqueries := ?_, tables := rfl, ctes := rfl
        complete := fun whole ↦ absurd rfl (whole _ (List.mem_singleton_self _)) }⟩
    · rw [none]
      rfl
    · rw [none]
      rfl

/-- An operand that is mentioned only. -/
theorem mentioned (h : Sees a .mentioned w) : Sees (Sighting.mentioned a) role w := by
  intro r visible
  obtain ⟨found, finds, shown⟩ := h r visible
  refine ⟨found, finds,
    { columns := ?_, subqueries := ?_, tables := shown.tables, ctes := shown.ctes
      complete := fun whole ↦ List.forall_mem_map.2 (shown.complete whole) }⟩
  · rw [Sighting.seen_mentioned, Sighting.columns_mentioned, shown.columns]
  · rw [Sighting.seen_mentioned, Sighting.footprints_mentioned, shown.subqueries]

/-- A negation changes conditions only. -/
theorem negated (h : Sees a role w) : Sees a role w.negated := by
  intro r visible
  obtain ⟨found, finds, shown⟩ := h r visible
  exact ⟨_, finds.negated,
    ⟨shown.columns, shown.subqueries, shown.tables, shown.ctes, shown.complete⟩⟩

end Sees

end Walk

open Walk (Sees)

theorem Mode.leaf_sees (m : Mode) (e : Sql.Expr) (role : Role) : Sees [] role (m.leaf e) := by
  unfold leaf
  split
  · cases e.condition? with
    | none => exact .skip
    | some text => exact .condition text
  · exact .skip

namespace Sql

mutual

theorem Expr.walk_sees (m : Mode) : ∀ e : Expr, Sees e.sightings m.role (e.walk m)
  | .binary left .and right => .pair (left.walk_sees m) (right.walk_sees m)
  | .binary left .or right => .pair (left.walk_sees m) (right.walk_sees m)
  | .column _ _ => .deeper _ (.recordRef _ m.role)
  | .constant _ => .deeper _ .skip
  | .binary left (.compare _) right =>
    .deeper _ (.cons_nil (m.leaf_sees _ _)
      (.pair (left.walk_sees m.operand) (right.walk_sees m.operand)))
  | .binary left (.other _) right =>
    .deeper _ (.pair (left.walk_sees m.operand) (right.walk_sees m.operand))
  | .unary .not operand => by
    refine .deeper _ ?_
    split
    · exact (operand.walk_sees m).negated
    · exact operand.walk_sees m
  | .unary (.before _) operand => .deeper _ (operand.walk_sees m)
  | .unary (.after _) operand => .deeper _ (operand.walk_sees m)
  | .nested inner => .deeper _ (inner.walk_sees m)
  | .cast _ operand _ _ => .deeper _ (operand.walk_sees m)
  | .nullTest operand _ =>
    .deeper _ (.cons_nil (m.leaf_sees _ _) (operand.walk_sees m.operand).single)
  | .distinctTest left _ right =>
    .deeper _ (.cons_nil (m.leaf_sees _ _)
      (.pair (left.walk_sees m.operand) (right.walk_sees m.operand)))
  | .quantified left _ _ right =>
    .deeper _ (.cons_nil (m.leaf_sees _ _)
      (.pair (left.walk_sees m.operand) (right.walk_sees m.operand)))
  | .between operand _ low high => by
    have bounds := Sees.pair (low.walk_sees .mention) (high.walk_sees .mention)
    exact .deeper _ (.cons_nil (m.leaf_sees _ _) (.cons (operand.walk_sees m.operand)
      bounds.mentioned))
  | .inList operand _ items =>
    .deeper _ (.cons_nil (m.leaf_sees _ _)
      (.pair (operand.walk_sees m.operand) (walkExprs_sees .mention items).mentioned))
  | .inQuery operand _ query => .deeper _ (.pair (operand.walk_sees m.operand) (.nested query))
  | .pattern _ operand _ _ against _ => by
    refine .deeper _ (.cons_nil (m.leaf_sees _ _) (.cons_nil ?_
      (.pair (operand.walk_sees m.operand) (against.walk_sees .mention).mentioned)))
    split
    · exact .unsupported _
    · exact .skip
  | .existsQuery _ query => .deeper _ (.nested query)
  | .subquery query => .deeper _ (.nested query)
  | .call _ _ arguments _ filter _ window =>
    .deeper _ (.cons (arguments.walk_sees m.operand)
      (.pair (walkOption_sees m.operand filter) (window.walk_sees m.operand)))
  | .braced call => call.walk_sees m
  | .cases operand conditions results otherwise =>
    .deeper _ (.cons (walkOption_sees m.operand operand)
      (.cons (walkExprs_sees m.operand conditions)
        (.pair (walkExprs_sees m.operand results) (walkOption_sees m.operand otherwise))))
  | .trim _ what operand characters =>
    .deeper _ (.cons (operand.walk_sees m.operand)
      (.pair (walkOption_sees m.operand what) (walkExprs_sees m.operand characters)))
  | .groupingSets parts =>
    .deeper _ (.cons_nil (.unsupported _) (walkPieces_sees m.operand parts).single)
  | .template parts => .deeper _ (walkPieces_sees m.operand parts)
  | .raw _ => .deeper _ .skip

theorem walkExprs_sees (m : Mode) : ∀ es : List Expr,
    Sees (sightingsOfExprs es) m.role (walkExprs m es)
  | [] => .skip
  | e :: es => .pair (e.walk_sees m) (walkExprs_sees m es)

theorem walkOption_sees (m : Mode) : ∀ e : Option Expr,
    Sees (sightingsOfOption e) m.role (walkOption m e)
  | none => .skip
  | some e => e.walk_sees m

theorem walkPieces_sees (m : Mode) : ∀ ps : List Piece,
    Sees (sightingsOfPieces ps) m.role (walkPieces m ps)
  | [] => .skip
  | .expr e :: ps => .pair (e.walk_sees m) (walkPieces_sees m ps)
  | .text _ :: ps => walkPieces_sees m ps
  | .query _ :: ps => walkPieces_sees m ps
  | .table _ :: ps => walkPieces_sees m ps

theorem Args.walk_sees (m : Mode) : ∀ as : Args, Sees as.sightings m.role (as.walk m)
  | .none => .skip
  | .query q => .nested q
  | .list _ items _ => walkArgs_sees m items

theorem walkArgs_sees (m : Mode) : ∀ as : List Arg,
    Sees (sightingsOfArgs as) m.role (walkArgs m as)
  | [] => .skip
  | a :: as => .pair (a.walk_sees m) (walkArgs_sees m as)

theorem Arg.walk_sees (m : Mode) : ∀ a : Arg, Sees a.sightings m.role (a.walk m)
  | .value e => e.walk_sees m
  | .wildcard _ => .skip
  | .named _ _ (.value e) => e.walk_sees m
  | .named _ _ (.wildcard _) => .skip
  | .named _ _ (.named _ _ _) => .skip
  | .named _ _ (.keyed _ _ _) => .skip
  | .keyed _ _ _ => .skip

theorem Window.walk_sees (m : Mode) : ∀ w : Window, Sees w.sightings m.role (w.walk m)
  | .none => .skip
  | .named _ => .skip
  | .spec _ partition order frame => by
    have framed : Sees [] m.role (if frame.isEmpty then .skip
        else .unsupported "window frames (ROWS / RANGE) are outside the supported grammar") := by
      split
      · exact .skip
      · exact .unsupported _
    have walked := (walkKeys_sees m order).andThen framed.single
    rw [List.append_nil] at walked
    rw [Window.sightings, Window.walk]
    exact .cons (walkExprs_sees m partition) walked

theorem walkKeys_sees (m : Mode) : ∀ ks : List OrderKey,
    Sees (sightingsOfKeys ks) m.role (walkKeys m ks)
  | [] => .skip
  | k :: ks => .pair (k.walk_sees m) (walkKeys_sees m ks)

theorem OrderKey.walk_sees (m : Mode) : ∀ k : OrderKey, Sees k.sightings m.role (k.walk m)
  | .mk expr _ => expr.walk_sees m

end

end Sql

end SqlFootprint
