import SqlFootprint.CommandLine.Run

/-!
# Parts of runs

A part of a run either meets a condition with what it yields, whatever is in the log, or fails. What
runs do that are put together of such parts follows from what the parts do.
-/

namespace SqlFootprint.CommandLine

namespace Run

variable {α β : Type} {x : Run α} {P : α → Prop} {f : α → Run β} {Q : β → Prop}

/-- A part of a run that yields something that meets a condition. -/
def Meets (x : Run α) (P : α → Prop) : Prop :=
  ∀ log, ∃ a log', x.run log = (.ok a, log') ∧ P a

/-- A part of a run that fails. -/
def Fails (x : Run α) : Prop :=
  ∀ log, ∃ e log', x.run log = (.error e, log')

theorem run_bind_of_ok {log log' : String} {a : α} (h : x.run log = (.ok a, log')) :
    (x >>= f).run log = (f a).run log' := by
  change ExceptT.bindCont f (x.run log).1 (x.run log).2 = _
  rw [h]
  rfl

theorem run_bind_of_error {log log' : String} {e : Failure} (h : x.run log = (.error e, log')) :
    (x >>= f).run log = (.error e, log') := by
  change ExceptT.bindCont f (x.run log).1 (x.run log).2 = _
  rw [h]
  rfl

theorem meets_pure {a : α} (h : P a) : Meets (pure a) P :=
  fun log ↦ ⟨a, log, rfl, h⟩

theorem Meets.bind (h : x.Meets P) (k : ∀ a, P a → (f a).Meets Q) : (x >>= f).Meets Q := by
  intro log
  obtain ⟨a, log', hx, ha⟩ := h log
  rw [run_bind_of_ok hx]
  exact k a ha log'

theorem Meets.bind_fails (h : x.Meets P) (k : ∀ a, P a → (f a).Fails) : (x >>= f).Fails := by
  intro log
  obtain ⟨a, log', hx, ha⟩ := h log
  rw [run_bind_of_ok hx]
  exact k a ha log'

theorem Fails.bind (h : x.Fails) (f : α → Run β) : (x >>= f).Fails := by
  intro log
  obtain ⟨e, log', hx⟩ := h log
  exact ⟨e, log', run_bind_of_error hx⟩

theorem fails_throw (e : Failure) : Fails (throw e : Run α) :=
  fun log ↦ ⟨e, log, rfl⟩

theorem meets_log (verbose : Bool) (line : String) : Meets (Run.log verbose line) fun _ ↦ True :=
  fun _ ↦ ⟨(), _, rfl, trivial⟩

theorem meets_lift {e : Except Failure α} {a : α} (h : e = .ok a) :
    Meets (liftM e : Run α) (· = a) := by
  subst h
  exact fun log ↦ ⟨a, log, rfl, rfl⟩

theorem fails_lift {e : Except Failure α} {failure : Failure} (h : e = .error failure) :
    Fails (liftM e : Run α) := by
  subst h
  exact fun log ↦ ⟨failure, log, rfl⟩

/-! ## Whole runs -/

theorem Meets.step {x : Run Step} {P : Step → Prop} (h : x.Meets P) : P x.step := by
  obtain ⟨s, log, hx, hs⟩ := h ""
  rw [Run.step, hx]
  exact hs

theorem Fails.step {x : Run Step} (h : x.Fails) :
    ∃ log e, x.step = .finished (.ofFailure log e) := by
  obtain ⟨e, log, hx⟩ := h ""
  exact ⟨log, e, by rw [Run.step, hx]⟩

end Run

end SqlFootprint.CommandLine
