import SqlFootprint.Proofs.Extraction.Growth

/-!
# Walks on one state

A walk is told how deep it is. It may as well keep count by itself: then it adds one on its way down
and takes it back on its way up, and a negation cuts the list of conditions where it ended before.
Both could go wrong, so runs on such a state may fail. They never do: every walk has steps whose run
ends in the same scope and leaves the count, the limit and the relations around as they were.
-/

namespace SqlFootprint.Walk

/-- What steps work on: a scope, with the relations around it and the count of levels. -/
structure State where
  reach : Reach
  scope : Scope

namespace State

def edit (st : State) (change : Scope → Scope) : State :=
  { st with scope := change st.scope }

/-- One level down. -/
def enter (st : State) : State :=
  { st with reach := { st.reach with depth := st.reach.depth + 1 } }

/-- One level up. There is none above the count of zero. -/
def leave? (st : State) : Option State :=
  match st.reach.depth with
  | 0 => none
  | depth + 1 => some { st with reach := { st.reach with depth } }

/-- The state in which a nested query starts. -/
def child (st : State) (place : Place) (text : String) : State :=
  ⟨{ st.reach with outer := st.scope.visible.reverse ++ st.reach.outer }, .start place.kind text⟩

end State

/-- Cuts a list in two. There is no place beyond its end to do so. -/
def cut? (texts : List String) (count : Nat) : Option (List String × List String) :=
  if count ≤ texts.length then some (texts.splitAt count) else none

theorem cut?_of_le {texts : List String} {count : Nat} (h : count ≤ texts.length) :
    cut? texts count = some (texts.take count, texts.drop count) := by
  rw [cut?, if_pos h, List.splitAt_eq]

/-! ## Runs -/

/-- A change of a state, which may fail. -/
abbrev Run := State → Option State

namespace Run

/-- A run that does not fail, ends in the scope in which a walk ends, and is as deep as before. -/
def Performs (run : Run) (w : Walk) : Prop :=
  ∀ st, run st = some (st.edit (w st.reach))

def change (w : Walk) : Run := fun st ↦ some (st.edit (w st.reach))

def andThen (first second : Run) : Run := fun st ↦ (first st).bind second

def join (kind : JoinKind) (left right : Option String) (on : Sql.Expr) (otherwise : Run) : Run :=
  fun st ↦
    match Sql.joinEdge? st.scope kind (st.scope.known? left) (st.scope.known? right) on with
    | some e => some (st.edit (Sql.recordEdge · e))
    | none => otherwise (st.edit (·.unsupported (Sql.noEdgeMessage on)))

def deeper (what : String) (inner : Run) : Run := fun st ↦
  if st.reach.depth < st.reach.limit then (inner st.enter).bind State.leave?
  else some (st.edit (·.tooDeep what st.reach.limit))

/-- A nested query has a state of its own, of which the footprint is left. -/
def query (place : Place) (text : String) (inner : Run) : Run := fun st ↦
  if st.reach.depth < st.reach.limit then
    (deeper "query" inner (st.child place text)).map fun t ↦
      st.edit (·.edit fun f ↦ place.keep (f.absorb t.scope.finish) t.scope.finish)
  else some (st.edit (·.tooDeep "subquery" st.reach.limit))

def branch (inner : Run) : Run := fun st ↦
  (inner st).map (·.edit fun s ↦ { s with visible := s.visible.take st.scope.visible.length })

def negated (inner : Run) : Run := fun st ↦
  (inner st).bind fun t ↦
    (cut? t.scope.footprint.conditions st.scope.footprint.conditions.length).map fun (kept, added) ↦
      t.edit (·.edit fun f ↦ { f with
        conditions := match added with
          | [leaf] => kept ++ ["NOT " ++ leaf]
          | _ => kept })

variable {run second : Run} {v w : Walk}

theorem performs_change (w : Walk) : (change w).Performs w :=
  fun _ ↦ rfl

theorem Performs.andThen (h : run.Performs v) (k : second.Performs w) :
    (run.andThen second).Performs (v.andThen w) := by
  intro st
  rw [Run.andThen, h, Option.bind_some, k]
  rfl

theorem Performs.join (kind : JoinKind) (left right : Option String) (on : Sql.Expr)
    (h : run.Performs w) : (run.join kind left right on).Performs (.join kind left right on w) := by
  intro st
  rcases joinOn_eq kind (st.scope.known? left) (st.scope.known? right) on w st.reach st.scope with
    ⟨e, edge, walked⟩ | ⟨edge, walked⟩
  · simp only [Run.join, edge, State.edit, Walk.join, walked]
  · simp only [Run.join, edge, h _, State.edit, Walk.join, walked]

/-- What is done one level down ends on the level where it starts, which is not the top. -/
theorem Performs.deeper (what : String) (h : run.Performs w) :
    (run.deeper what).Performs (.deeper what w) := by
  intro st
  unfold Run.deeper Walk.deeper
  split
  · rw [h]
    rfl
  · rfl

theorem Performs.query (place : Place) (text : String) (h : run.Performs w) :
    (run.query place text).Performs (.query place text w) := by
  intro st
  unfold Run.query Walk.query nested
  split
  · rw [h.deeper]
    rfl
  · rfl

theorem Performs.branch (h : run.Performs w) : run.branch.Performs w.branch := by
  intro st
  rw [Run.branch, h]
  rfl

/-- A walk that only adds conditions leaves a list that is long enough to be cut. -/
theorem Performs.negated (h : run.Performs w)
    (grows : ∀ r s, s.footprint.conditions <+: (w r s).footprint.conditions) :
    run.negated.Performs w.negated := by
  intro st
  have enough := (grows st.reach st.scope).length_le
  rw [Run.negated, h, Option.bind_some, State.edit, cut?_of_le enough]
  rfl

end Run

/-! ## Steps -/

/-- The steps of a walk. -/
inductive Steps where
  | skip
  | condition (text : String)
  | unsupported (message : String)
  | register (t : TableUse)
  | use (c : ColumnUse) (qualifier : Option String)
  | andThen (first second : Steps)
  | join (kind : JoinKind) (left right : Option String) (on : Sql.Expr) (otherwise : Steps)
  | deeper (what : String) (inner : Steps)
  | query (place : Place) (text : String) (inner : Steps)
  | branch (inner : Steps)
  | negated (inner : Steps)

/-- The walk that steps make up. -/
def Steps.walk : Steps → Walk
  | skip => .skip
  | condition text => .edit (·.addCondition text)
  | unsupported message => .unsupported message
  | register t => .register t
  | use c qualifier => .use c qualifier
  | andThen first second => first.walk.andThen second.walk
  | join kind left right on otherwise => .join kind left right on otherwise.walk
  | deeper what inner => .deeper what inner.walk
  | query place text inner => .query place text inner.walk
  | branch inner => inner.walk.branch
  | negated inner => inner.walk.negated

/-- The same steps one after the other on one state. -/
def Steps.run : Steps → Run
  | skip => .change .skip
  | condition text => .change (.edit (·.addCondition text))
  | unsupported message => .change (.unsupported message)
  | register t => .change (.register t)
  | use c qualifier => .change (.use c qualifier)
  | andThen first second => first.run.andThen second.run
  | join kind left right on otherwise => otherwise.run.join kind left right on
  | deeper what inner => inner.run.deeper what
  | query place text inner => inner.run.query place text
  | branch inner => inner.run.branch
  | negated inner => inner.run.negated

/-- Every walk is made up of steps, and their run never fails. -/
theorem Composed.exists_steps {roles : Role → Prop} {ts : List TableUse} {w : Walk}
    (h : Composed roles ts w) : ∃ steps : Steps, steps.walk = w ∧ steps.run.Performs w := by
  induction h with
  | skip => exact ⟨.skip, rfl, Run.performs_change _⟩
  | andThen _ _ ihv ihw =>
    obtain ⟨first, rfl, hv⟩ := ihv
    obtain ⟨second, rfl, hw⟩ := ihw
    exact ⟨.andThen first second, rfl, hv.andThen hw⟩
  | condition text => exact ⟨.condition text, rfl, Run.performs_change _⟩
  | unsupported _ message => exact ⟨.unsupported message, rfl, Run.performs_change _⟩
  | register t => exact ⟨.register t, rfl, Run.performs_change _⟩
  | use name table aliasName qualifier => exact ⟨.use _ qualifier, rfl, Run.performs_change _⟩
  | join kind left right on _ _ ih =>
    obtain ⟨otherwise, rfl, hw⟩ := ih
    exact ⟨.join kind left right on otherwise, rfl, hw.join kind left right on⟩
  | deeper what _ ih =>
    obtain ⟨inner, rfl, hw⟩ := ih
    exact ⟨.deeper what inner, rfl, hw.deeper what⟩
  | query place q _ _ ih =>
    obtain ⟨inner, rfl, hw⟩ := ih
    exact ⟨.query place q.render inner, rfl, hw.query place q.render⟩
  | branch _ ih =>
    obtain ⟨inner, rfl, hw⟩ := ih
    exact ⟨.branch inner, rfl, hw.branch⟩
  | negated composed ih =>
    obtain ⟨inner, rfl, hw⟩ := ih
    exact ⟨.negated inner, rfl, hw.negated fun r s ↦ (composed.extends r s).conditions⟩

end SqlFootprint.Walk
