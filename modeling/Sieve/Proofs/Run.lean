import Sieve.Document.Journal

/-!
What a run did apart from its calls: the tests that it put elements to, each element pulled for its
test. `Run.Does` says so together with how the run ended, and composes along `bind`.
-/

namespace Sieve

abbrev Trial := ElementTest × Element

def Trial.events (trial : Trial) : List Event := [.pull trial.2.id, .test trial.1 trial.2]

def Event.isWork : Event → Bool
  | .call _ => false
  | .pull _ | .test _ _ => true

def Event.trial? : Event → Option Trial
  | .test t e => some (t, e)
  | _ => none

def Event.isPull : Event → Bool
  | .pull _ => true
  | _ => false

theorem work_of_events (trials : List Trial) :
    (trials.flatMap Trial.events).filter Event.isWork = trials.flatMap Trial.events := by
  induction trials with
  | nil => rfl
  | cons trial more ih =>
    rw [List.flatMap_cons, List.filter_append, ih]
    rfl

theorem trials_of_events (trials : List Trial) :
    (trials.flatMap Trial.events).filterMap Event.trial? = trials := by
  induction trials with
  | nil => rfl
  | cons trial more ih => simp [Trial.events, Event.trial?, List.filterMap_cons, ih]

theorem pulls_of_events (trials : List Trial) :
    (trials.flatMap Trial.events).countP Event.isPull = trials.length := by
  induction trials with
  | nil => rfl
  | cons trial more ih => simp [Trial.events, Event.isPull, List.countP_cons, ih]

namespace Run

variable {α β : Type}

def work (x : Run α) : List Event := x.events.filter Event.isWork

def trials (x : Run α) : List Trial := x.events.filterMap Event.trial?

def pulls (x : Run α) : Nat := x.run.pulls

theorem bind_ok_iff {x : Run α} {f : α → Run β} {b : β} :
    (x >>= f).outcome = .ok b ↔ ∃ a, x.outcome = .ok a ∧ (f a).outcome = .ok b := by
  rw [outcome_bind]
  cases x.outcome <;> simp [bind, Except.bind]

theorem outcome_map (f : α → β) (x : Run α) : (f <$> x).outcome = x.outcome.map f := by
  rw [map_eq_pure_bind, outcome_bind]
  cases x.outcome <;> rfl

theorem map_ok_iff {f : α → β} {x : Run α} {b : β} :
    (f <$> x).outcome = .ok b ↔ ∃ a, x.outcome = .ok a ∧ f a = b := by
  rw [outcome_map]
  cases x.outcome <;> simp [Except.map]

theorem map_succeeds_iff {f : α → β} {x : Run α} :
    (∃ b, (f <$> x).outcome = .ok b) ↔ ∃ a, x.outcome = .ok a := by
  rw [outcome_map]
  cases x.outcome <;> simp [Except.map]

theorem work_bind (x : Run α) (f : α → Run β) :
    (x >>= f).work = x.work ++
      match x.outcome with
      | .ok a => (f a).work
      | .error _ => [] := by
  simp only [work, events_bind, List.filter_append]
  cases x.outcome <;> rfl

theorem work_bind_eq_nil {x : Run α} {f : α → Run β} (first : x.work = [])
    (rest : ∀ a, x.outcome = .ok a → (f a).work = []) : (x >>= f).work = [] := by
  rw [work_bind, first]
  cases ended : x.outcome with
  | ok a => exact rest a ended
  | error e => rfl

theorem work_map_eq_nil {f : α → β} {x : Run α} (quiet : x.work = []) : (f <$> x).work = [] := by
  rw [map_eq_pure_bind]
  exact work_bind_eq_nil quiet fun _ _ => rfl

/-- The run made exactly these trials, in this order, and ended in this value, or failed. -/
structure Does (x : Run α) (trials : List Trial) (result : Option α) : Prop where
  work : x.work = trials.flatMap Trial.events
  result : x.outcome.toOption = result

namespace Does

variable {x : Run α} {g : α → Run β} {first rest : List Trial} {a : α} {result : Option β}

theorem outcome (did : x.Does first (some a)) : x.outcome = .ok a := by
  have ended := did.result
  cases h : x.outcome with
  | ok b => simpa [h, Except.toOption] using ended
  | error e => simp [h, Except.toOption] at ended

theorem failed (did : x.Does first none) : ∃ e, x.outcome = .error e := by
  have ended := did.result
  cases h : x.outcome with
  | ok b => simp [h, Except.toOption] at ended
  | error e => exact ⟨e, rfl⟩

theorem bind (did : x.Does first (some a)) (after : (g a).Does rest result) :
    (x >>= g).Does (first ++ rest) result where
  work := by
    rw [work_bind, did.outcome, did.work, List.flatMap_append]
    exact congrArg _ after.work
  result := by
    rw [outcome_bind, did.outcome]
    exact after.result

theorem stop (did : x.Does first none) : (x >>= g).Does first none := by
  obtain ⟨e, failed⟩ := did.failed
  refine ⟨?_, ?_⟩
  · rw [work_bind, failed, did.work, List.append_nil]
  · rw [outcome_bind, failed]
    rfl

/-- A computation that cannot fail ends in its value. -/
theorem of_lift {x : Logged α}
    (tested : x.events.filter Event.isWork = first.flatMap Trial.events) :
    (liftM x : Run α).Does first (some x.value) := by
  have events : (liftM x : Run α).events = x.events := List.append_nil _
  exact ⟨by rw [Run.work, events, tested], rfl⟩

theorem of_quiet (quiet : x.work = []) (ended : x.outcome = .ok a) : x.Does [] (some a) :=
  ⟨quiet, by rw [ended]; rfl⟩

theorem trials_eq {result : Option α} (did : x.Does first result) : x.trials = first := by
  have tests : x.trials = x.work.filterMap Event.trial? := by
    rw [trials, Run.work, List.filterMap_filter]
    congr 1
    funext event
    cases event <;> rfl
  rw [tests, did.work, trials_of_events]

/-- An element is pulled for each trial, and none besides. -/
theorem pulls_eq {result : Option α} (did : x.Does first result) : x.pulls = first.length := by
  have pulled : x.pulls = x.work.countP Event.isPull := by
    rw [Run.work, List.countP_filter]
    refine List.countP_congr fun event _ => ?_
    cases event <;> simp [Event.isPull, Event.isWork]
  rw [pulled, did.work, pulls_of_events]

end Does

end Run

end Sieve
