import SqlFootprint.Proofs.Extraction.Chains
import SqlFootprint.Proofs.Sql.Rewriting

/-!
# Ranges and lists as comparisons

`x BETWEEN lo AND hi` says what `x >= lo AND x <= hi` says, and `x IN (a, b)` what `x = a OR x = b`
says. A condition expands to another if the second is the first with comparisons in place of some
ranges and lists. Parentheses, and where a chain is cut, make no difference.

The same is met in a condition before and after, but more of it is marked: the bounds of a range and
the items of a list are only mentioned, and the sides of a comparison are not.
-/

namespace SqlFootprint.Sql

namespace Expr

/-- Two operands joined by a connective. The operands of a chain on the left come one by one. -/
def chained (op : BinaryOp) (left right : Expr) : Expr :=
  (left.operands op).foldr (fun e rest ↦ .binary e op rest) right

/-- An expression that is equal to one of some others. -/
def equalsAny (e : Expr) : Expr → List Expr → Expr
  | first, [] => .binary e (.compare .eq) first
  | first, second :: rest =>
    chained .or (.binary e (.compare .eq) first) (e.equalsAny second rest)

/-- The comparisons that a range or a list stands for, if it is not negated. -/
def compared : Expr → Expr
  | .between operand false low high =>
    chained .and (.binary operand (.compare .ge) low) (.binary operand (.compare .le) high)
  | .inList operand false (first :: rest) => operand.equalsAny first rest
  | e => e

end Expr

/-- Lets chains lean to the right, wherever they were cut. -/
def leaning (group : Expr → Expr) : Rewriting where
  group := group
  binary left op right :=
    match op with
    | .and | .or => left.chained op right
    | .compare _ | .other _ => .binary left op right

/-- Removes parentheses. -/
def regrouping : Rewriting :=
  leaning id

/-- Removes parentheses, and writes comparisons for the ranges and lists that stood in them. -/
def expansion : Rewriting :=
  leaning Expr.compared

/-- The second condition is the first, with comparisons for some of its ranges and lists. These are
the ones that stand in parentheses once parentheses have been put into the first condition or taken
from it. -/
def Expands (f g : Option Expr) : Prop :=
  ∃ e, rewriteOption regrouping e = rewriteOption regrouping f ∧
    rewriteOption expansion e = rewriteOption regrouping g

/-! ## The same is met -/

open Sighting (deeper mentioned joined)

namespace Sighting

/-- What is met, at whatever places. -/
def sights (a : List Sighting) : List Sight :=
  a.map sight

/-- What is met and takes on the role of the expression. -/
def marks (a : List Sighting) : List Sight :=
  (a.filter marked).map sight

variable {a b : List Sighting} {w : Sight}

theorem mem_sights : w ∈ sights a ↔ ∃ s ∈ a, s.sight = w :=
  List.mem_map

theorem mem_marks : w ∈ marks a ↔ ∃ s ∈ a, s.marked ∧ s.sight = w := by
  rw [marks, List.mem_map]
  simp only [List.mem_filter, and_assoc]

@[simp] theorem sights_append (a b : List Sighting) : sights (a ++ b) = sights a ++ sights b :=
  List.map_append

@[simp] theorem sights_deeper (a : List Sighting) : sights (deeper a) = sights a :=
  List.map_map

@[simp] theorem sights_mentioned (a : List Sighting) : sights (mentioned a) = sights a :=
  List.map_map

@[simp] theorem marks_append (a b : List Sighting) : marks (a ++ b) = marks a ++ marks b := by
  rw [marks, List.filter_append, List.map_append]
  rfl

@[simp] theorem marks_deeper (a : List Sighting) : marks (deeper a) = marks a := by
  rw [marks, deeper, List.filter_map, List.map_map]
  rfl

@[simp] theorem marks_mentioned (a : List Sighting) : marks (mentioned a) = [] := by
  rw [marks, mentioned, List.filter_map, List.map_eq_nil_iff, List.map_eq_nil_iff,
    List.filter_eq_nil_iff]
  exact fun _ _ ↦ Bool.false_ne_true

/-- The same is met, and what is marked stays so. -/
structure Spreads (a b : List Sighting) : Prop where
  sights : ∀ w, w ∈ sights a ↔ w ∈ sights b
  marks : ∀ w ∈ marks a, w ∈ marks b

namespace Spreads

variable {c d : List Sighting}

theorem exists_of_mem (h : Spreads a b) {s : Sighting} (hs : s ∈ a) :
    ∃ t ∈ b, s.sight = t.sight ∧ (s.marked → t.marked) := by
  by_cases hm : s.marked
  · obtain ⟨t, ht, marked, same⟩ := mem_marks.1 (h.marks _ (mem_marks.2 ⟨s, hs, hm, rfl⟩))
    exact ⟨t, ht, same.symm, fun _ ↦ marked⟩
  · obtain ⟨t, ht, same⟩ := mem_sights.1 ((h.sights _).1 (mem_sights.2 ⟨s, hs, rfl⟩))
    exact ⟨t, ht, same.symm, (absurd · hm)⟩

theorem exists_of_mem_right (h : Spreads a b) {t : Sighting} (ht : t ∈ b) :
    ∃ s ∈ a, t.sight = s.sight := by
  obtain ⟨s, hs, same⟩ := mem_sights.1 ((h.sights _).2 (mem_sights.2 ⟨t, ht, rfl⟩))
  exact ⟨s, hs, same.symm⟩

theorem refl (a : List Sighting) : Spreads a a :=
  ⟨fun _ ↦ Iff.rfl, fun _ hw ↦ hw⟩

theorem trans (h : Spreads a b) (k : Spreads b c) : Spreads a c :=
  ⟨fun w ↦ (h.sights w).trans (k.sights w), fun w hw ↦ k.marks w (h.marks w hw)⟩

theorem append (h : Spreads a b) (k : Spreads c d) : Spreads (a ++ c) (b ++ d) where
  sights w := by simp only [sights_append, List.mem_append, h.sights, k.sights]
  marks w hw := by
    rw [marks_append, List.mem_append] at hw ⊢
    exact hw.imp (h.marks w) (k.marks w)

theorem deeper_left (a : List Sighting) : Spreads (Sighting.deeper a) a :=
  ⟨fun _ ↦ by rw [sights_deeper], fun _ hw ↦ by rwa [marks_deeper] at hw⟩

theorem deeper_right (a : List Sighting) : Spreads a (Sighting.deeper a) :=
  ⟨fun _ ↦ by rw [sights_deeper], fun _ hw ↦ by rwa [marks_deeper]⟩

theorem deeper (h : Spreads a b) : Spreads (deeper a) (Sighting.deeper b) where
  sights w := by rw [sights_deeper, sights_deeper, h.sights]
  marks w hw := by
    rw [marks_deeper] at hw ⊢
    exact h.marks w hw

theorem mentioned (h : Spreads a b) : Spreads (mentioned a) (Sighting.mentioned b) where
  sights w := by rw [sights_mentioned, sights_mentioned, h.sights]
  marks w hw := by
    rw [marks_mentioned] at hw
    cases hw

end Spreads

end Sighting

open Sighting (Spreads sights marks)

namespace Expr

variable (c : Connective)

theorem sightings_join (left right : Expr) :
    (binary left c.op right).sightings = left.sightings ++ right.sightings := by
  cases c <;> rfl

theorem sightings_operands (e : Expr) : (e.operands c.op).flatMap sightings = e.sightings := by
  fun_induction operands c.op e with
  | case1 left right ihl ihr => rw [List.flatMap_append, ihl, ihr, sightings_join]
  | case2 left op right => exact List.flatMap_singleton _ _
  | case3 e => exact List.flatMap_singleton _ e

/-- A chain is met as its operands are, wherever it is cut. -/
theorem sightings_chained (left right : Expr) :
    (left.chained c.op right).sightings = left.sightings ++ right.sightings := by
  have along (es : List Expr) : (es.foldr (fun e rest ↦ binary e c.op rest) right).sightings =
      es.flatMap sightings ++ right.sightings := by
    induction es with
    | nil => rfl
    | cons e es ih => rw [List.foldr_cons, sightings_join, ih, List.flatMap_cons, List.append_assoc]
  rw [chained, along, left.sightings_operands c]

theorem mem_sights_equalsAny (e : Expr) {first : Expr} {rest : List Expr} {w : Sight} :
    w ∈ sights (e.equalsAny first rest).sightings ↔
      w ∈ sights e.sightings ∨ w ∈ sights (sightingsOfExprs (first :: rest)) := by
  induction rest generalizing first with
  | nil => simp [equalsAny, sightings, joined, sightingsOfExprs]
  | cons second rest ih =>
    have chain := (binary e (.compare .eq) first).sightings_chained .or (e.equalsAny second rest)
    rw [equalsAny, show BinaryOp.or = Connective.or.op from rfl, chain, Sighting.sights_append,
      List.mem_append, ih]
    simp only [sightings, joined, sightingsOfExprs, Sighting.sights_deeper, Sighting.sights_append,
      List.mem_append]
    tauto

theorem mem_marks_equalsAny (e : Expr) {first : Expr} {rest : List Expr} {w : Sight}
    (hw : w ∈ marks e.sightings) : w ∈ marks (e.equalsAny first rest).sightings := by
  have side : w ∈ marks (binary e (.compare .eq) first).sightings := by
    simp only [sightings, joined, Sighting.marks_deeper, Sighting.marks_append, List.mem_append]
    exact .inl hw
  cases rest with
  | nil => exact side
  | cons second rest =>
    have chain := (binary e (.compare .eq) first).sightings_chained .or (e.equalsAny second rest)
    rw [equalsAny, show BinaryOp.or = Connective.or.op from rfl, chain, Sighting.marks_append]
    exact List.mem_append_left _ side

theorem spreads_compared (e : Expr) : Spreads e.sightings e.compared.sightings := by
  fun_cases compared e with
  | case1 operand low high =>
    have chain := (binary operand (.compare .ge) low).sightings_chained .and
      (.binary operand (.compare .le) high)
    change Spreads _ (chained Connective.and.op _ _).sightings
    rw [chain]
    constructor
    · intro w
      simp only [sightings, joined, Sighting.sights_deeper, Sighting.sights_mentioned,
        Sighting.sights_append, List.mem_append]
      tauto
    · intro w hw
      simp only [sightings, joined, Sighting.marks_deeper, Sighting.marks_mentioned,
        Sighting.marks_append, List.mem_append, List.append_nil] at hw ⊢
      exact .inl (.inl hw)
  | case2 operand first rest =>
    constructor
    · intro w
      simp only [sightings, Sighting.sights_deeper, Sighting.sights_mentioned,
        Sighting.sights_append, List.mem_append]
      exact operand.mem_sights_equalsAny.symm
    · intro w hw
      simp only [sightings, Sighting.marks_deeper, Sighting.marks_mentioned,
        Sighting.marks_append, List.append_nil] at hw
      exact operand.mem_marks_equalsAny hw
  | case3 => exact .refl _

end Expr

theorem keeps_leaning {R : List Sighting → List Sighting → Prop} {group : Expr → Expr}
    (refl : ∀ a, R a a) (append : ∀ {a b c d}, R a c → R b d → R (a ++ b) (c ++ d))
    (deep : ∀ {a c}, R a c → R (deeper a) (deeper c))
    (mention : ∀ {a c}, R a c → R (mentioned a) (mentioned c))
    (grouped : ∀ {a} {e : Expr}, R a e.sightings → R (deeper a) (group e).sightings) :
    (leaning group).Keeps R where
  nil := refl []
  append := append
  deeper := deep
  mentioned := mention
  query _ := refl _
  column _ _ := refl _
  group := grouped
  binary op left right hl hr := by
    cases op with
    | and => exact (left.sightings_chained .and right) ▸ append hl hr
    | or => exact (left.sightings_chained .or right) ▸ append hl hr
    | compare c | other spelling => exact deep (append hl hr)
  between _ _ _ _ ho hl hh := deep (append ho (mention (append hl hh)))
  inList _ _ _ ho hi := deep (append ho (mention hi))

theorem keeps_regrouping : regrouping.Keeps fun a b ↦ Spreads a b ∧ Spreads b a :=
  keeps_leaning (fun a ↦ ⟨.refl a, .refl a⟩)
    (fun h k ↦ ⟨h.1.append k.1, h.2.append k.2⟩)
    (fun h ↦ ⟨h.1.deeper, h.2.deeper⟩)
    (fun h ↦ ⟨h.1.mentioned, h.2.mentioned⟩)
    fun h ↦ ⟨(Spreads.deeper_left _).trans h.1, h.2.trans (Spreads.deeper_right _)⟩

theorem keeps_expansion : expansion.Keeps Spreads :=
  keeps_leaning .refl .append .deeper .mentioned
    fun {_ e} h ↦ ((Spreads.deeper_left _).trans h).trans e.spreads_compared

/-- Comparisons have the same references and queries as what they are written for, and whatever was
marked in that is marked in them. -/
theorem Expands.spreads {f g : Option Expr} (h : Expands f g) :
    Spreads (sightingsOfOption f) (sightingsOfOption g) := by
  obtain ⟨e, before, after⟩ := h
  have first := (keeps_regrouping.sightingsOfOption f).1
  have back := (keeps_regrouping.sightingsOfOption e).2
  have expanded := keeps_expansion.sightingsOfOption e
  have last := (keeps_regrouping.sightingsOfOption g).2
  rw [before] at back
  rw [after] at expanded
  exact ((first.trans back).trans expanded).trans last

/-! ## The conditions of a statement -/

section

variable (C : Option Expr → Option Expr → Prop)

mutual

/-- Two queries that differ in no more than their own `WHERE` clauses, and there as a relation
says. -/
inductive Query.SameButFilters : Query → Query → Prop
  | mk (recursive : Bool) (ctes : List Cte) {body body' : SetExpr} (order : List OrderKey)
      (tail : List Piece) : SetExpr.SameButFilters body body' →
      Query.SameButFilters ⟨recursive, ctes, body, order, tail⟩
        ⟨recursive, ctes, body', order, tail⟩

inductive SetExpr.SameButFilters : SetExpr → SetExpr → Prop
  | refl (body : SetExpr) : SetExpr.SameButFilters body body
  | select (s : Select) {filter filter' : Option Expr} : C filter filter' →
      SetExpr.SameButFilters (.select { s with filter }) (.select { s with filter := filter' })
  | query {q q' : Query} : Query.SameButFilters q q' →
      SetExpr.SameButFilters (.query q) (.query q')
  | operation (op : SetOp) (quantifier : String) {left left' right right' : SetExpr} :
      SetExpr.SameButFilters left left' → SetExpr.SameButFilters right right' →
      SetExpr.SameButFilters (.operation op quantifier left right)
        (.operation op quantifier left' right')

end

/-- Two statements that differ in no more than their own `WHERE` clauses, or in those of the query
whose rows are inserted, and there as a relation says. -/
inductive Statement.SameButFilters : Statement → Statement → Prop
  | refl (s : Statement) : Statement.SameButFilters s s
  | query {q q' : Query} : Query.SameButFilters C q q' →
      Statement.SameButFilters (.query q) (.query q')
  | insert (i : Insert) {q q' : Query} : Query.SameButFilters C q q' →
      Statement.SameButFilters (.insert { i with source := some q })
        (.insert { i with source := some q' })
  | update (u : Update) {filter filter' : Option Expr} : C filter filter' →
      Statement.SameButFilters (.update { u with filter }) (.update { u with filter := filter' })
  | delete (d : Delete) {filter filter' : Option Expr} : C filter filter' →
      Statement.SameButFilters (.delete { d with filter }) (.delete { d with filter := filter' })

end

mutual

/-- The conditions in the `WHERE` clauses of a query, outside nested queries. Of the operations on
sets only a union has any, as the branches of others are skipped. -/
def Query.conditions : Query → List Expr
  | ⟨_, _, body, _, _⟩ => body.conditions

def SetExpr.conditions : SetExpr → List Expr
  | .select ⟨_, _, _, _, _, filter, _, _, _, _⟩ => filter.toList
  | .query q => q.conditions
  | .operation .union _ left right => left.conditions ++ right.conditions
  | .operation .except _ _ _ | .operation .intersect _ _ _ | .values _ | .insert _ | .update _
  | .other _ => []

end

/-- The conditions in the `WHERE` clauses of a statement, outside nested queries. -/
def Statement.conditions : Statement → List Expr
  | .query q => q.conditions
  | .insert i => i.source.elim [] Query.conditions
  | .update u => u.filter.toList
  | .delete d => d.filter.toList
  | .createTable _ | .other _ => []

end SqlFootprint.Sql
