import SqlFootprint.Proofs.Extraction.Branches
import SqlFootprint.Proofs.Extraction.Chains
import SqlFootprint.Proofs.Extraction.Depth
import SqlFootprint.Proofs.Extraction.Recording
import SqlFootprint.Proofs.Extraction.Sightings
import SqlFootprint.Proofs.Extraction.Tables
import SqlFootprint.Proofs.Sql.Comparisons

/-!
# Comparisons in place of ranges and lists

If comparisons are written for the ranges and lists in the `WHERE` clauses of a statement, the same
columns are recorded, and they play the same roles apart from that of a filter. That one belongs to
what a condition marks: the bounds of a range and the items of a list are only mentioned, so they
come to be filtered by when they are compared with.

A nested query may be met more often then, and on another level. Where no level is missing that
makes no difference.
-/

namespace SqlFootprint

open ColumnUse (Playing)
open Sql (Sighting)

/-! ## Where nothing is left out -/

namespace Findings

/-- Nothing was left out for being nested too deep. -/
def IsWhole (a : Findings) : Prop :=
  ∀ n ∈ a.allNotices, n.kind ≠ .depthLimitExceeded

namespace IsWhole

variable {a b : Findings}

theorem of_append (h : (a ++ b).IsWhole) : a.IsWhole ∧ b.IsWhole := by
  have parts (n : Notice) : n ∈ (a ++ b).allNotices ↔ n ∈ a.allNotices ∨ n ∈ b.allNotices := by
    simp only [allNotices, notices_append, ctes_append, subqueries_append, List.flatMap_append,
      List.mem_append]
    tauto
  exact ⟨fun n hn ↦ h n ((parts n).2 (.inl hn)), fun n hn ↦ h n ((parts n).2 (.inr hn))⟩

theorem of_dedup_add {f : Footprint} (h : (f.add a).dedup.IsWhole) : a.IsWhole := by
  have added : (f.add a).IsWhole := h.congr rfl rfl
  exact fun n hn ↦ added n (Footprint.mem_allNotices_add.2 (.inr hn))

theorem subqueries (h : a.IsWhole) : ∀ g ∈ a.subqueries, g.IsWhole :=
  fun g hg n hn ↦ h n (List.mem_append_right _
    (List.mem_flatMap.2 ⟨g, List.mem_append_right _ hg, hn⟩))

theorem of_findings {place : Place} {child : Footprint} (h : (place.findings child).IsWhole) :
    child.IsWhole := by
  intro n hn
  refine h n (List.mem_append_right _ (List.mem_flatMap.2 ⟨child, ?_, hn⟩))
  cases place with
  | withClause => exact List.mem_singleton_self child
  | elsewhere => exact List.mem_singleton_self child

end IsWhole

end Findings

/-- A nested query has one footprint on all levels that leave nothing of it out. -/
theorem Sql.Query.footprint_eq_of_isWhole (q : Sql.Query) (kind : StatementKind)
    {outer : List TableUse} {depth depth' limit : Nat}
    (h : (q.footprint kind ⟨outer, depth, limit⟩).IsWhole)
    (h' : (q.footprint kind ⟨outer, depth', limit⟩).IsWhole) :
    q.footprint kind ⟨outer, depth, limit⟩ = q.footprint kind ⟨outer, depth', limit⟩ := by
  have higher {low high : Nat} (hle : low ≤ high)
      (whole : (q.footprint kind ⟨outer, high, limit⟩).IsWhole) :
      q.footprint kind ⟨outer, low, limit⟩ = q.footprint kind ⟨outer, high, limit⟩ :=
    congrArg Scope.finish (q.walk_composed.walk.eq_of_isWhole ⟨outer, high, limit⟩ _
      (Nat.sub_le_sub_left hle limit) (whole.congr rfl rfl))
  rcases Nat.le_total depth depth' with hle | hle
  · exact higher hle h'
  · exact (higher hle h).symm

namespace Findings.Shows

variable {a : List Sighting} {role : Role} {r : Reach} {visible : List TableUse} {found : Findings}
  (h : found.Shows a role r visible) (whole : found.IsWhole)

include h whole

/-- Everything is within reach. -/
theorem seen_eq : Sighting.seen r a = a :=
  List.filter_eq_self.2 (h.complete fun n hn ↦ whole n (List.mem_append_left _ hn))

theorem playing_iff {other : Role} {key : String × String} :
    Playing found.columns other key ↔ ∃ s ∈ a, Playing (s.columns role r visible) other key := by
  rw [h.columns, h.seen_eq whole]
  constructor
  · rintro ⟨c, hc, plays⟩
    obtain ⟨s, hs, hc⟩ := List.mem_flatMap.1 hc
    exact ⟨s, hs, c, hc, plays⟩
  · rintro ⟨s, hs, c, hc, plays⟩
    exact ⟨c, List.mem_flatMap.2 ⟨s, hs, hc⟩, plays⟩

theorem isWhole_footprints {s : Sighting} (hs : s ∈ a) :
    ∀ g ∈ s.footprints r visible, g.IsWhole := by
  intro g hg
  refine whole.subqueries g ?_
  rw [h.subqueries, h.seen_eq whole]
  exact List.mem_flatMap.2 ⟨s, hs, hg⟩

end Findings.Shows

/-! ## What is met plays the same roles -/

theorem ColumnRef.playing_use {c : ColumnRef} {role other : Role} {outer visible : List TableUse}
    {key : String × String} :
    Playing [c.use role outer visible] other key ↔
      (⟨.empty .select "", visible⟩ : Scope).keyOf outer c = key ∧
        (other = role ∨ other = .mentioned) := by
  rw [ColumnUse.playing_cons, or_iff_left ColumnUse.not_playing_nil]
  exact and_congr Iff.rfl Roles.has_ofRole

/-- The same sight plays the same roles at any place, as long as it is marked where it has to be. -/
theorem Sql.Sighting.playing_columns_congr {s t : Sighting} (same : s.sight = t.sight) {r : Reach}
    {visible : List TableUse} (hs : ∀ g ∈ s.footprints r visible, g.IsWhole)
    (ht : ∀ g ∈ t.footprints r visible, g.IsWhole) {role : Role}
    (marked : role = .filtered → s.marked → t.marked) {key : String × String}
    (plays : Playing (s.columns .filtered r visible) role key) :
    Playing (t.columns .filtered r visible) role key := by
  obtain ⟨sight, depth, m⟩ := s
  obtain ⟨sight', depth', m'⟩ := t
  obtain rfl : sight = sight' := same
  cases sight with
  | reference c =>
    obtain ⟨there, plays⟩ := ColumnRef.playing_use.1 plays
    refine ColumnRef.playing_use.2 ⟨there, ?_⟩
    cases m with
    | false =>
      obtain mention | mention := plays
      · exact .inr mention
      · exact .inr mention
    | true =>
      obtain filter | mention := plays
      · have marked' : m' = true := marked filter rfl
        exact .inl (by rw [marked']; exact filter)
      · exact .inr mention
  | query q =>
    have one := q.footprint_eq_of_isWhole .select (hs _ (List.mem_singleton_self _))
      (ht _ (List.mem_singleton_self _))
    simp only [columns, footprints, List.flatMap_singleton] at plays ⊢
    rwa [← one]

namespace Findings.Shows

variable {a : List Sighting} {r : Reach} {visible : List TableUse} {found : Findings}
  (h : found.Shows a .filtered r visible) (whole : found.IsWhole)

include h whole

/-- Whatever a condition refers to is recorded. -/
theorem playing_of_mem_sights {c : ColumnRef} (hc : .reference c ∈ Sighting.sights a) :
    Playing found.columns .mentioned ((⟨.empty .select "", visible⟩ : Scope).keyOf r.outer c) := by
  obtain ⟨⟨sight, depth, marked⟩, hs, rfl⟩ := Sighting.mem_sights.1 hc
  exact (h.playing_iff whole).2 ⟨_, hs, ColumnRef.playing_use.2 ⟨rfl, .inr rfl⟩⟩

/-- What a condition filters by are the references that it marks, and what nested queries filter
by. -/
theorem playing_filtered_iff {key : String × String} :
    Playing found.columns .filtered key ↔
      (∃ c, .reference c ∈ Sighting.marks a ∧
        (⟨.empty .select "", visible⟩ : Scope).keyOf r.outer c = key) ∨
      ∃ s ∈ a, ∃ g ∈ s.footprints r visible, g.Plays .filtered key := by
  rw [h.playing_iff whole]
  constructor
  · rintro ⟨⟨sight, depth, marked⟩, hs, plays⟩
    cases sight with
    | reference c =>
      obtain ⟨there, filter | mention⟩ := ColumnRef.playing_use.1 plays
      · cases marked with
        | true => exact .inl ⟨c, Sighting.mem_marks.2 ⟨_, hs, rfl, rfl⟩, there⟩
        | false => cases filter
      · cases mention
    | query q =>
      obtain ⟨c, hc, plays⟩ := plays
      obtain ⟨g, hg, hc⟩ := List.mem_flatMap.1 hc
      exact .inr ⟨_, hs, g, hg, c, hc, plays⟩
  · rintro (⟨c, hc, there⟩ | ⟨⟨sight, depth, marked⟩, hs, g, hg, c, hc, plays⟩)
    · obtain ⟨⟨sight, depth, marked⟩, hs, hm, rfl⟩ := Sighting.mem_marks.1 hc
      obtain rfl : marked = true := hm
      exact ⟨_, hs, ColumnRef.playing_use.2 ⟨there, .inl rfl⟩⟩
    · cases sight with
      | reference c => cases hg
      | query q => exact ⟨_, hs, c, List.mem_flatMap.2 ⟨g, hg, hc⟩, plays⟩

end Findings.Shows

namespace ColumnUse

theorem mem_map_foldedKey_iff {us : List ColumnUse} {key : String × String} :
    key ∈ us.map foldedKey ↔ Playing us .mentioned key := by
  rw [List.mem_map]
  exact exists_congr fun c ↦ and_congr_right fun _ ↦ (and_iff_left rfl).symm

/-- The same columns in the same roles, apart from more that are filtered by. -/
structure AddsFilters (us vs : List ColumnUse) : Prop where
  kept : ∀ role key, Playing us role key → Playing vs role key
  rest : ∀ role ≠ .filtered, ∀ key, Playing vs role key → Playing us role key

namespace AddsFilters

variable {us vs us' vs' : List ColumnUse}

theorem refl (us : List ColumnUse) : AddsFilters us us :=
  ⟨fun _ _ ↦ id, fun _ _ _ ↦ id⟩

theorem append (h : AddsFilters us vs) (k : AddsFilters us' vs') :
    AddsFilters (us ++ us') (vs ++ vs') where
  kept role key := by
    rw [playing_append, playing_append]
    exact Or.imp (h.kept role key) (k.kept role key)
  rest role other key := by
    rw [playing_append, playing_append]
    exact Or.imp (h.rest role other key) (k.rest role other key)

end AddsFilters

end ColumnUse

/-- What a walk finds in an empty footprint are the roles of what is found. -/
theorem Footprint.plays_dedup_add {kind : StatementKind} {text : String} {a : Findings}
    {role : Role} {key : String × String} :
    ((empty kind text).add a).dedup.Plays role key ↔ Playing a.columns role key := by
  rw [plays_dedup, plays_add]
  exact or_iff_right ColumnUse.not_playing_nil

theorem Footprint.addsFilters_dedup_add {kind kind' : StatementKind} {text text' : String}
    {a b : Findings} (h : ColumnUse.AddsFilters a.columns b.columns) :
    ColumnUse.AddsFilters ((empty kind text).add a).dedup.columns
      ((empty kind' text').add b).dedup.columns where
  kept role key plays := plays_dedup_add.2 (h.kept role key (plays_dedup_add.1 plays))
  rest role other key plays := plays_dedup_add.2 (h.rest role other key (plays_dedup_add.1 plays))

namespace Walk

/-- The second walk finds the columns of the first in the same roles, apart from more that are
filtered by, if nothing is left out. -/
def AddsFilters (v w : Walk) : Prop :=
  ∀ r visible, ∃ a b entered, Finds v r visible a entered ∧ Finds w r visible b entered ∧
    (a.IsWhole → b.IsWhole → ColumnUse.AddsFilters a.columns b.columns)

namespace AddsFilters

variable {v w v' w' : Walk}

theorem refl (h : Additive w) : AddsFilters w w := by
  intro r visible
  obtain ⟨found, entered, finds⟩ := h r visible
  exact ⟨found, found, entered, finds, finds, fun _ _ ↦ .refl _⟩

theorem andThen (h : AddsFilters v w) (k : AddsFilters v' w') :
    AddsFilters (v.andThen v') (w.andThen w') := by
  intro r visible
  obtain ⟨a, b, entered, va, wb, same⟩ := h r visible
  obtain ⟨c, d, later, vc, wd, same'⟩ := k r (visible ++ entered)
  refine ⟨a ++ c, b ++ d, entered ++ later, va.andThen vc, wb.andThen wd, fun hac hbd ↦ ?_⟩
  obtain ⟨ha, hc⟩ := hac.of_append
  obtain ⟨hb, hd⟩ := hbd.of_append
  rw [Findings.columns_append, Findings.columns_append]
  exact (same ha hb).append (same' hc hd)

theorem cons {vs ws : List Walk} (h : AddsFilters v w) (k : AddsFilters (.all vs) (.all ws)) :
    AddsFilters (.all (v :: vs)) (.all (w :: ws)) :=
  h.andThen k

theorem skip : AddsFilters .skip .skip :=
  .refl .skip

theorem pair (h : AddsFilters v w) (k : AddsFilters v' w') :
    AddsFilters (.all [v, v']) (.all [w, w']) :=
  h.cons (k.cons skip)

theorem deeper (what : String) (h : AddsFilters v w) :
    AddsFilters (.deeper what v) (.deeper what w) := by
  intro r visible
  rcases Nat.lt_or_ge r.depth r.limit with hd | hd
  · obtain ⟨a, b, entered, va, wb, same⟩ := h { r with depth := r.depth + 1 } visible
    exact ⟨a, b, entered, .deeper_of_lt hd what va, .deeper_of_lt hd what wb, same⟩
  · obtain ⟨text, finds⟩ := Finds.deeper_of_le hd what v visible
    obtain ⟨text', finds'⟩ := Finds.deeper_of_le hd what w visible
    exact ⟨_, _, [], finds, finds', fun _ _ ↦ .refl _⟩

theorem branch (h : AddsFilters v w) : AddsFilters v.branch w.branch := by
  intro r visible
  obtain ⟨a, b, entered, va, wb, same⟩ := h r visible
  exact ⟨a, b, [], va.branch, wb.branch, same⟩

/-- What is found in a nested query is found where it is nested. -/
theorem nested (place : Place) {q q' : Sql.Query} (h : AddsFilters q.walk q'.walk) :
    AddsFilters (.nested place.kind q.render q.walk place.keep)
      (.nested place.kind q'.render q'.walk place.keep) := by
  intro r visible
  rcases Nat.lt_or_ge r.depth r.limit with hd | hd
  · obtain ⟨a, b, entered, va, wb, same⟩ := h ⟨visible.reverse ++ r.outer, r.depth, r.limit⟩ []
    refine ⟨_, _, [], .nested_of_lt hd place q visible, .nested_of_lt hd place q' visible, ?_⟩
    rw [va.footprint_eq, wb.footprint_eq]
    intro whole whole'
    rw [place.columns_findings, place.columns_findings]
    exact Footprint.addsFilters_dedup_add
      (same (.of_dedup_add whole.of_findings) (.of_dedup_add whole'.of_findings))
  · obtain ⟨text, finds⟩ := Finds.nested_of_le hd place q visible
    obtain ⟨text', finds'⟩ := Finds.nested_of_le hd place q' visible
    exact ⟨_, _, [], finds, finds', fun _ _ ↦ .refl _⟩

/-- More is filtered by where more is marked. -/
theorem of_sees {a b : List Sighting} (hv : Sees a .filtered v) (hw : Sees b .filtered w)
    (spread : Sighting.Spreads a b) : AddsFilters v w := by
  intro r visible
  obtain ⟨found, finds, shown⟩ := hv r visible
  obtain ⟨found', finds', shown'⟩ := hw r visible
  refine ⟨found, found', [], finds, finds', fun whole whole' ↦ ⟨fun role key ↦ ?_, ?_⟩⟩
  · rw [shown.playing_iff whole, shown'.playing_iff whole']
    rintro ⟨s, hs, plays⟩
    obtain ⟨t, ht, same, marked⟩ := spread.exists_of_mem hs
    exact ⟨t, ht, s.playing_columns_congr same (shown.isWhole_footprints whole hs)
      (shown'.isWhole_footprints whole' ht) (fun _ ↦ marked) plays⟩
  · intro role other key
    rw [shown.playing_iff whole, shown'.playing_iff whole']
    rintro ⟨t, ht, plays⟩
    obtain ⟨s, hs, same⟩ := spread.exists_of_mem_right ht
    exact ⟨s, hs, t.playing_columns_congr same (shown'.isWhole_footprints whole' ht)
      (shown.isWhole_footprints whole hs) (absurd · other) plays⟩

end AddsFilters

end Walk

/-! ## Statements -/

namespace Sql

open Walk (Additive AddsFilters)

variable {C : Option Expr → Option Expr → Prop}

mutual

theorem Query.SameButFilters.walk_addsFilters
    (same : ∀ f g, C f g → AddsFilters (walkOption .predicate f) (walkOption .predicate g)) :
    ∀ {q q' : Query}, q.SameButFilters C q' → AddsFilters q.walk q'.walk
  | _, _, .mk recursive ctes order _ body =>
    .deeper _ (.cons (.refl (.ite recursive (.unsupported _) .skip))
      (.cons (.refl (walkCtes_additive ctes))
        (.pair (body.walk_addsFilters same) (.refl (walkKeys_quiet _ rfl order).additive))))

theorem SetExpr.SameButFilters.walk_addsFilters
    (same : ∀ f g, C f g → AddsFilters (walkOption .predicate f) (walkOption .predicate g)) :
    ∀ {e e' : SetExpr}, e.SameButFilters C e' → AddsFilters e.walk e'.walk
  | _, _, .refl body => .refl body.walk_additive
  | _, _, .select s filters => by
    rw [SetExpr.walk, SetExpr.walk, Select.walk, Select.walk]
    exact .cons (.refl (walkSources_additive s.sources))
      (.cons (.refl (walkItems_additive s.projection)) (.cons (same _ _ filters)
        (.pair (.refl s.grouping.walk_additive) (.refl (walkOption_additive _ s.having)))))
  | _, _, .query q => q.walk_addsFilters same
  | _, _, .operation .union _ left right =>
    .pair ((left.walk_addsFilters same).deeper _).branch
      ((right.walk_addsFilters same).deeper _).branch
  | _, _, .operation .except _ _ _ => .refl (.unsupported _)
  | _, _, .operation .intersect _ _ _ => .refl (.unsupported _)

end

theorem Insert.sourceWalk_addsFilters (i : Insert) {q q' : Query} (h : q.SameButFilters C q')
    (nested : AddsFilters (.nested .select q.render q.walk .addSubquery)
      (.nested .select q'.render q'.walk .addSubquery)) :
    AddsFilters { i with source := some q }.sourceWalk { i with source := some q' }.sourceWalk := by
  cases h with
  | @mk recursive ctes body body' order tail bodies =>
    cases bodies with
    | refl =>
      cases body with
      | values parts => exact .skip
      | _ => exact nested
    | select | query | operation => exact nested

theorem Statement.SameButFilters.walk_addsFilters
    (same : ∀ f g, C f g → AddsFilters (walkOption .predicate f) (walkOption .predicate g))
    {S T : Statement} (h : S.SameButFilters C T) : AddsFilters S.walk T.walk := by
  cases h with
  | refl => exact .refl S.walk_additive
  | query q => exact q.walk_addsFilters same
  | @insert i q q' rows =>
    rw [walk, walk, Insert.walk_eq, Insert.walk_eq]
    have sources := i.sourceWalk_addsFilters rows (.nested .elsewhere (rows.walk_addsFilters same))
    exact .andThen (.refl (.register _))
      (.andThen (.refl (insertColumns_additive _ i.columns)) sources)
  | @update u f g filters =>
    rw [walk, walk, Update.walk_eq, Update.walk_eq]
    exact .andThen (.refl u.table.walk_additive)
      (.pair (.refl (walkAssignments_additive _ u.assignments)) (same f g filters))
  | @delete d f g filters =>
    rw [walk, walk, Delete.walk, Delete.walk]
    exact .cons (.refl (walkSources_additive d.sources))
      (.pair (.refl (walkSources_additive d.others)) (same f g filters))

end Sql

/-! ## Conditions on the way -/

namespace Walk

/-- A walk comes by a condition: wherever the one is walked from, the other is walked from
somewhere, with no other relations added than some, and the roles that it finds are found. -/
def Meets (ts : List TableUse) (e : Sql.Expr) (w : Walk) : Prop :=
  ∀ r visible, ∃ found entered, Finds w r visible found entered ∧ (found.IsWhole →
    ∃ r' visible' a, (∀ t ∈ visible' ++ r'.outer, t ∈ visible ++ r.outer ∨ t ∈ ts) ∧
      Findings.Shows e.sightings .filtered r' visible' a ∧ a.IsWhole ∧
        ∀ role key, Playing a.columns role key → Playing found.columns role key)

namespace Meets

variable {ts us : List TableUse} {e : Sql.Expr} {v w : Walk}

theorem self (e : Sql.Expr) : Meets ts e (e.walk .predicate) := by
  intro r visible
  obtain ⟨found, finds, shown⟩ := e.walk_sees .predicate r visible
  exact ⟨found, [], finds, fun whole ↦
    ⟨r, visible, found, fun _ ↦ .inl, shown, whole, fun _ _ ↦ id⟩⟩

theorem before (h : Meets ts e v) (k : Additive w) : Meets (ts ++ us) e (v.andThen w) := by
  intro r visible
  obtain ⟨found, entered, finds, met⟩ := h r visible
  obtain ⟨more, later, finds'⟩ := k r (visible ++ entered)
  refine ⟨found ++ more, entered ++ later, finds.andThen finds', fun whole ↦ ?_⟩
  obtain ⟨r', visible', a, known, shown, wholeA, plays⟩ := met whole.of_append.1
  refine ⟨r', visible', a, fun t ht ↦ (known t ht).imp_right (List.mem_append_left us), shown,
    wholeA, fun role key there ↦ ?_⟩
  rw [Findings.columns_append, ColumnUse.playing_append]
  exact .inl (plays role key there)

theorem after {roles : Role → Prop} (h : Additive v) (composed : Composed roles us v)
    (k : Meets ts e w) : Meets (us ++ ts) e (v.andThen w) := by
  intro r visible
  obtain ⟨found, entered, finds⟩ := h r visible
  obtain ⟨more, later, finds', met⟩ := k r (visible ++ entered)
  refine ⟨found ++ more, entered ++ later, finds.andThen finds', fun whole ↦ ?_⟩
  obtain ⟨r', visible', a, known, shown, wholeA, plays⟩ := met whole.of_append.2
  have own (t : TableUse) (ht : t ∈ visible ++ entered) : t ∈ visible ∨ t ∈ us := by
    refine (composed.entered r ⟨.empty .select "", visible⟩).2 t ?_
    rwa [finds.eq]
  refine ⟨r', visible', a, fun t ht ↦ ?_, shown, wholeA, fun role key there ↦ ?_⟩
  · have cases := known t ht
    have := own t
    simp only [List.mem_append] at cases this ⊢
    tauto
  · rw [Findings.columns_append, ColumnUse.playing_append]
    exact .inr (plays role key there)

theorem head {ws : List Walk} (h : Meets ts e w) (k : Additive (.all ws)) :
    Meets (ts ++ us) e (.all (w :: ws)) :=
  h.before k

theorem single (h : Meets ts e w) : Meets ts e (.all [w]) :=
  h

theorem tail {roles : Role → Prop} {ws : List Walk} (h : Additive w)
    (composed : Composed roles us w) (k : Meets ts e (.all ws)) :
    Meets (us ++ ts) e (.all (w :: ws)) :=
  .after h composed k

theorem tail_nil {roles : Role → Prop} {ws : List Walk} (h : Additive w)
    (composed : Composed roles [] w) (k : Meets ts e (.all ws)) : Meets ts e (.all (w :: ws)) :=
  .tail h composed k

theorem deeper (what : String) (h : Meets ts e w) : Meets ts e (.deeper what w) := by
  intro r visible
  rcases Nat.lt_or_ge r.depth r.limit with hd | hd
  · obtain ⟨found, entered, finds, met⟩ := h { r with depth := r.depth + 1 } visible
    exact ⟨found, entered, .deeper_of_lt hd what finds, met⟩
  · obtain ⟨text, finds⟩ := Finds.deeper_of_le hd what w visible
    exact ⟨_, _, finds, fun whole ↦ absurd rfl (whole _ (List.mem_singleton_self _))⟩

theorem branch (h : Meets ts e w) : Meets ts e w.branch := by
  intro r visible
  obtain ⟨found, entered, finds, met⟩ := h r visible
  exact ⟨found, [], finds.branch, met⟩

theorem nested (place : Place) {q : Sql.Query} (h : Meets ts e q.walk) :
    Meets ts e (.nested place.kind q.render q.walk place.keep) := by
  intro r visible
  rcases Nat.lt_or_ge r.depth r.limit with hd | hd
  · obtain ⟨found, entered, finds, met⟩ := h ⟨visible.reverse ++ r.outer, r.depth, r.limit⟩ []
    refine ⟨_, [], .nested_of_lt hd place q visible, fun whole ↦ ?_⟩
    rw [finds.footprint_eq] at whole ⊢
    obtain ⟨r', visible', a, known, shown, wholeA, plays⟩ := met (.of_dedup_add whole.of_findings)
    refine ⟨r', visible', a, fun t ht ↦ (known t ht).imp_left fun outside ↦ ?_, shown, wholeA,
      fun role key there ↦ ?_⟩
    · rwa [List.nil_append, List.mem_append, List.mem_reverse, ← List.mem_append] at outside
    · rw [place.columns_findings]
      exact Footprint.plays_dedup_add.2 (plays role key there)
  · obtain ⟨text, finds⟩ := Finds.nested_of_le hd place q visible
    exact ⟨_, _, finds, fun whole ↦ absurd rfl (whole _ (List.mem_singleton_self _))⟩

end Meets

end Walk

namespace Sql

open Walk (Additive Composed Meets)

theorem walkOption_meets {e : Expr} {filter : Option Expr} (h : e ∈ filter.toList) :
    Meets (relationsOfOption filter) e (walkOption .predicate filter) := by
  obtain rfl := Option.mem_toList.1 h
  exact .self e

mutual

theorem Query.walk_meets {e : Expr} : ∀ q : Query, e ∈ q.conditions → Meets q.relations e q.walk
  | ⟨recursive, ctes, body, order, _⟩, h => by
    have noted (message : String) :
        Composed Role.Reads [] (if recursive then .unsupported message else .skip) := by
      split
      · exact .unsupported [] _
      · exact .skip
    have keys : Additive (.all [walkKeys ⟨.filtered, false⟩ order]) :=
      .cons (walkKeys_quiet _ rfl order).additive .skip
    exact .deeper _ (.tail_nil (.ite recursive (.unsupported _) .skip) (noted _)
      (.tail (walkCtes_additive ctes) (walkCtes_composed ctes) (.head (body.walk_meets h) keys)))

theorem SetExpr.walk_meets {e : Expr} :
    ∀ body : SetExpr, e ∈ body.conditions → Meets body.relations e body.walk
  | .select ⟨_, projection, _, sources, _, filter, grouping, _, having, _⟩, h => by
    rw [SetExpr.walk, Select.walk]
    exact .tail (walkSources_additive sources) (walkSources_composed sources)
      (.tail (walkItems_additive projection) (walkItems_composed projection)
        (.head (walkOption_meets h)
          (.pair grouping.walk_additive (walkOption_additive _ having))))
  | .query q, h => q.walk_meets h
  | .operation .union _ left right, h => by
    obtain h | h := List.mem_append.1 h
    · exact .head ((left.walk_meets h).deeper _).branch
        (.cons (right.walk_additive.deeper _).branch .skip)
    · exact .tail (left.walk_additive.deeper _).branch (left.walk_composed.deeper _).branch
        ((right.walk_meets h).deeper _).branch.single

end

theorem Insert.sourceWalk_meets {e : Expr} (i : Insert)
    (h : e ∈ i.source.elim [] Query.conditions) : Meets i.sourceRelations e i.sourceWalk := by
  unfold sourceWalk sourceRelations
  cases hs : i.source with
  | none =>
    rw [hs] at h
    cases h
  | some q =>
    rw [hs] at h
    have nested : Meets q.relations e (.nested .select q.render q.walk .addSubquery) :=
      .nested .elsewhere (q.walk_meets h)
    obtain ⟨recursive, ctes, body, order, tail⟩ := q
    cases body with
    | values parts => cases h
    | _ => exact nested

theorem Statement.walk_meets {e : Expr} :
    ∀ s : Statement, e ∈ s.conditions → Meets s.relations e s.walk
  | .query q, h => q.walk_meets h
  | .insert i, h => by
    rw [walk, Insert.walk_eq]
    have target : Composed Role.OffEdge
        [i.table.toTableUse (i.aliasName.map Ident.text)] (.register _) := .register _
    exact .after (.register _) target
      (.after (insertColumns_additive _ i.columns) (insertColumns_composed _ i.columns)
        (i.sourceWalk_meets h))
  | .update u, h => by
    rw [walk, Update.walk_eq]
    exact .after u.table.walk_additive u.table.walk_composed.composed
      (.tail (walkAssignments_additive _ u.assignments)
        (.all_map fun a _ ↦ a.walk_composed u.table.owner?) (walkOption_meets h).single)
  | .delete d, h => by
    rw [walk, Delete.walk]
    exact .tail (walkSources_additive d.sources) (walkSources_composed d.sources)
      (.tail (walkSources_additive d.others) (walkSources_composed d.others)
        (walkOption_meets h).single)

/-- Comparisons find what the ranges and lists find that they are written for. -/
theorem Expands.walkOption_addsFilters {f g : Option Expr} (h : Expands f g) :
    Walk.AddsFilters (walkOption .predicate f) (walkOption .predicate g) :=
  .of_sees (walkOption_sees .predicate f) (walkOption_sees .predicate g) h.spreads

end Sql

namespace Footprint

open Sql.Sighting (sights marks)

theorem addsFilters_ofStatement {S T : Sql.Statement} (h : Walk.AddsFilters S.walk T.walk)
    {limit : Nat} {text text' : String} (whole : (ofStatement limit S text).IsWhole)
    (whole' : (ofStatement limit T text').IsWhole) :
    ColumnUse.AddsFilters (ofStatement limit S text).columns (ofStatement limit T text').columns := by
  obtain ⟨a, b, entered, finds, finds', adds⟩ := h ⟨[], 0, limit⟩ []
  rw [finds.ofStatement_eq] at whole ⊢
  rw [finds'.ofStatement_eq] at whole' ⊢
  exact addsFilters_dedup_add (adds (.of_dedup_add whole) (.of_dedup_add whole'))

/-- The references in a condition of a statement are recorded as those of a place where no relations
are visible but the statement's. -/
theorem exists_recorded_of_mem_conditions {S : Sql.Statement} {limit : Nat} {text : String}
    (whole : (ofStatement limit S text).IsWhole) {e : Sql.Expr} (he : e ∈ S.conditions) :
    ∃ (outer : List TableUse) (s : Scope), (∀ t ∈ s.visible ++ outer, t ∈ S.relations) ∧
      (∀ c, .reference c ∈ sights e.sightings →
        (ofStatement limit S text).Plays .mentioned (s.keyOf outer c)) ∧
      ∀ c, .reference c ∈ marks e.sightings →
        (ofStatement limit S text).Plays .filtered (s.keyOf outer c) := by
  obtain ⟨found, entered, finds, met⟩ := S.walk_meets he ⟨[], 0, limit⟩ []
  rw [finds.ofStatement_eq] at whole ⊢
  obtain ⟨r, visible, a, known, shown, wholeA, plays⟩ := met (.of_dedup_add whole)
  refine ⟨r.outer, ⟨.empty .select "", visible⟩,
    fun t ht ↦ (known t ht).resolve_left List.not_mem_nil, fun c hc ↦ ?_, fun c hc ↦ ?_⟩
  · exact plays_dedup_add.2 (plays _ _ (shown.playing_of_mem_sights wholeA hc))
  · exact plays_dedup_add.2
      (plays _ _ ((shown.playing_filtered_iff wholeA).2 (.inl ⟨c, hc, rfl⟩)))

/-- What a condition adds to what is filtered by. -/
theorem plays_filtered_walk_iff (e : Sql.Expr) (r : Reach) (s : Scope)
    (whole : (e.walk .predicate r s).footprint.IsWhole) (key : String × String) :
    (e.walk .predicate r s).footprint.Plays .filtered key ↔
      s.footprint.Plays .filtered key ∨
      (∃ c, .reference c ∈ marks e.sightings ∧ s.keyOf r.outer c = key) ∨
      ∃ x ∈ e.sightings, ∃ g ∈ x.footprints r s.visible, g.Plays .filtered key := by
  obtain ⟨found, finds, shown⟩ := e.walk_sees .predicate r s.visible
  have walked : (e.walk .predicate r s).footprint = s.footprint.add found :=
    congrArg Scope.footprint (finds.eq s.footprint)
  rw [walked] at whole ⊢
  rw [plays_add, shown.playing_filtered_iff (.of_dedup_add (whole.congr rfl rfl))]
  rfl

/-- Write comparisons for some of the ranges and lists in the `WHERE` clauses of a statement, and
suppose that nothing is left out before or after for being nested too deep. The columns stay the
same, and so do their roles apart from that of a filter, which is not lost.

Whatever a condition in `WHERE` refers to outside nested queries has an entry, and is filtered by if
the reference is marked, that is unless it stands in the bounds of a range, in the items of a list
or in a pattern. Nothing else is filtered by because of a condition, apart from what the queries
nested in it filter by. -/
theorem adds_filters_of_expansion {S T : Sql.Statement} (expands : S.SameButFilters Sql.Expands T)
    (limit : Nat) (text text' : String) (whole : (ofStatement limit S text).IsWhole)
    (whole' : (ofStatement limit T text').IsWhole) :
    let f := ofStatement limit S text
    let g := ofStatement limit T text'
    (∀ key, key ∈ f.columns.map ColumnUse.foldedKey ↔ key ∈ g.columns.map ColumnUse.foldedKey) ∧
    (∀ role ≠ .filtered, ∀ key, f.Plays role key ↔ g.Plays role key) ∧
    (∀ key, f.Plays .filtered key → g.Plays .filtered key) ∧
    (∀ e ∈ S.conditions, ∃ (outer : List TableUse) (s : Scope),
      (∀ t ∈ s.visible ++ outer, t ∈ S.relations) ∧
      (∀ c, .reference c ∈ sights e.sightings → f.Plays .mentioned (s.keyOf outer c)) ∧
      ∀ c, .reference c ∈ marks e.sightings → f.Plays .filtered (s.keyOf outer c)) ∧
    ∀ (e : Sql.Expr) (r : Reach) (s : Scope), (e.walk .predicate r s).footprint.IsWhole →
      ∀ key, (e.walk .predicate r s).footprint.Plays .filtered key ↔
        s.footprint.Plays .filtered key ∨
        (∃ c, .reference c ∈ marks e.sightings ∧ s.keyOf r.outer c = key) ∨
        ∃ x ∈ e.sightings, ∃ g ∈ x.footprints r s.visible, g.Plays .filtered key := by
  intro f g
  have adds : ColumnUse.AddsFilters f.columns g.columns :=
    addsFilters_ofStatement (expands.walk_addsFilters fun _ _ h ↦ h.walkOption_addsFilters) whole
      whole'
  have rest {role : Role} (other : role ≠ .filtered) (key : String × String) :
      f.Plays role key ↔ g.Plays role key :=
    ⟨adds.kept role key, adds.rest role other key⟩
  refine ⟨fun key ↦ ?_, fun _ other ↦ rest other, adds.kept .filtered,
    fun e he ↦ exists_recorded_of_mem_conditions whole he, plays_filtered_walk_iff⟩
  rw [ColumnUse.mem_map_foldedKey_iff, ColumnUse.mem_map_foldedKey_iff]
  exact rest (by decide) key

/-- Of `1 = a OR a BETWEEN lo AND t.hi OR b IN (1, c)` only the list becomes comparisons: `c` comes
to be filtered by, and the bounds are still only mentioned. -/
theorem adds_filters_of_expansion_sample :
    let column (path : List String) (name : String) : Sql.Expr :=
      .column (path.map (⟨·, none⟩)) ⟨name, none⟩
    let equals (left right : Sql.Expr) : Sql.Expr := .binary left (.compare .eq) right
    let either (left right : Sql.Expr) : Sql.Expr := .binary left .or right
    let a := column [] "a"
    let b := column [] "b"
    let range : Sql.Expr := .between a false (column [] "lo") (column ["t"] "hi")
    let list : Sql.Expr := .inList b false [.constant "1", column [] "c"]
    let statement (filter : Sql.Expr) : Sql.Statement :=
      .query (.plain [.expr (.constant "1")] [.named [⟨"t", none⟩]] (some filter))
    let before := either (either (equals (.constant "1") a) range) list
    let S := statement before
    let after := either (either (either (equals (.constant "1") a) range)
      (equals b (.constant "1"))) (equals b (column [] "c"))
    let T := statement after
    let f := ofStatement 8 S ""
    let g := ofStatement 8 T ""
    let filtered (f : Footprint) := (f.columns.filter (·.roles.filtered)).map ColumnUse.foldedKey
    filtered f = [("", "a"), ("", "b")] ∧ filtered g = [("", "a"), ("", "b"), ("", "c")] ∧
      (∀ key, key ∈ f.columns.map ColumnUse.foldedKey ↔ key ∈ g.columns.map ColumnUse.foldedKey) ∧
      f.Plays .mentioned ("", "lo") ∧ g.Plays .filtered ("", "b") := by
  intro column equals either a b range list statement before S after T f g filtered
  -- The list is the one to be replaced.
  let chosen := either (either (equals (.constant "1") a) range) (.nested list)
  have expanded : Sql.Expands (some before) (some after) := ⟨some chosen, rfl, rfl⟩
  have expands : S.SameButFilters Sql.Expands T :=
    .query (.mk _ _ _ _ (.select
      ⟨[], [.expr (.constant "1")], [], [.named [⟨"t", none⟩]], [], none, .keys [] "", [], none, []⟩
      expanded))
  have whole : f.IsWhole := by
    show ∀ n ∈ f.allNotices, n.kind ≠ .depthLimitExceeded
    decide +kernel
  have whole' : g.IsWhole := by
    show ∀ n ∈ g.allNotices, n.kind ≠ .depthLimitExceeded
    decide +kernel
  obtain ⟨keys, -, kept, recorded, -⟩ := adds_filters_of_expansion expands 8 "" "" whole whole'
  obtain ⟨outer, s, -, mentioned, filters⟩ := recorded before (List.mem_singleton_self _)
  have low : s.keyOf outer ⟨none, "lo"⟩ = ("", "lo") := by
    show (Text.foldAscii "", Text.foldAscii "lo") = _
    decide +kernel
  have second : s.keyOf outer ⟨none, "b"⟩ = ("", "b") := by
    show (Text.foldAscii "", Text.foldAscii "b") = _
    decide +kernel
  refine ⟨by decide +kernel, by decide +kernel, keys, ?_, kept _ ?_⟩
  · rw [← low]
    exact mentioned ⟨none, "lo"⟩ (.tail _ (.tail _ (.head _)))
  · rw [← second]
    exact filters ⟨none, "b"⟩ (.tail _ (.tail _ (.head _)))

/-- All columns of `x >= t.lo AND x <= t.hi` are filtered by, and of `x = 1 OR x = t.lo`, but of
`x BETWEEN t.lo AND t.hi` and of `x IN (1, t.lo)` only `x`. -/
theorem not_same_filters_of_expansion :
    let column (path : List String) (name : String) : Sql.Expr :=
      .column (path.map (⟨·, none⟩)) ⟨name, none⟩
    let compare (left : Sql.Expr) (c : Sql.Comparison) (right : Sql.Expr) : Sql.Expr :=
      .binary left (.compare c) right
    let x := column [] "x"
    let lo := column ["t"] "lo"
    let hi := column ["t"] "hi"
    let told (filter : Sql.Expr) :=
      let f := ofStatement 8 (.query (.plain [.expr (.constant "1")] [.named [⟨"t", none⟩]]
        (some filter))) ""
      f.columns.map fun c ↦ (c.foldedKey, c.roles.filtered)
    let range : Sql.Expr := .between x false lo hi
    let bounds : Sql.Expr := .binary (compare x .ge lo) .and (compare x .le hi)
    let list : Sql.Expr := .inList x false [.constant "1", lo]
    let items : Sql.Expr := .binary (compare x .eq (.constant "1")) .or (compare x .eq lo)
    (Sql.Expands (some range) (some bounds) ∧
      told range = [(("", "x"), true), (("t", "lo"), false), (("t", "hi"), false)] ∧
      told bounds = [(("", "x"), true), (("t", "lo"), true), (("t", "hi"), true)]) ∧
    Sql.Expands (some list) (some items) ∧
      told list = [(("", "x"), true), (("t", "lo"), false)] ∧
      told items = [(("", "x"), true), (("t", "lo"), true)] := by
  intro column compare x lo hi told range bounds list items
  refine ⟨⟨⟨some (.nested range), rfl, rfl⟩, ?_, ?_⟩, ⟨some (.nested list), rfl, rfl⟩, ?_, ?_⟩ <;>
    decide +kernel

end Footprint

end SqlFootprint
