import Sieve.Proofs.Query

/-!
The tests of a query, in their order. A run that succeeds makes those of every set that it reaches;
one that fails has made some only if a scope did not open after a set with tests.
-/

namespace Sieve

def Run.FailsLate {α : Type} (x : Run α) : Prop :=
  (∃ e, x.outcome = .error e) ∧ ¬ (x.trials = [] ∧ x.pulls = 0)

/-- Some scope does not open, and sets before the first such make tests. -/
def Visits.ClosesLate (d : Document) (visits : Visits) : Prop :=
  ¬ visits.allOpen d ∧ (visits.untilClosed d).trials d ≠ []

theorem Run.Does.not_failsLate {α : Type} {x : Run α} {result : Option α}
    (did : x.Does [] result) : ¬ x.FailsLate := fun late => late.2 ⟨did.trials_eq, did.pulls_eq⟩

theorem Run.Tours.failsLate_iff {α : Type} {d : Document} {x : Run α} {visits : Visits} {a : α}
    (toured : x.Tours d visits a) : x.FailsLate ↔ visits.ClosesLate d := by
  have failed : (∃ e, x.outcome = .error e) ↔ ¬ visits.allOpen d := by
    constructor
    · rintro ⟨e, failed⟩ opens
      simp [toured.ok_iff.mpr ⟨opens, rfl⟩] at failed
    · intro closed
      have did : x.Does ((visits.untilClosed d).trials d) none := by
        simpa [Run.Tours, closed] using toured
      exact did.failed
  have worked : x.trials = [] ∧ x.pulls = 0 ↔ (visits.untilClosed d).trials d = [] := by
    rw [toured.trials_eq, toured.pulls_eq, List.length_eq_zero_iff, and_self]
  rw [FailsLate, Visits.ClosesLate, failed, worked]

namespace FilterSet

variable {d : Document} {c : Config} {f : FilterSet} {scope : Scope}

/-- Work precedes a failure exactly if the set is well-formed and a scope under it opens too late:
scopes of nested sets are opened only when their turn comes. -/
theorem query_fails_late_iff (d : Document) (c : Config) (f : FilterSet) :
    (∀ scope, (f.collect d c scope).FailsLate ↔
      f.scopes = [] ∧ f.WellFormed d c scope ∧ (f.visits d scope).ClosesLate d) ∧
    ((Matches.ofFilters d c f).FailsLate ↔
      f.WellFormed d c (f.scopeOver d .document) ∧
        (f.visits d (f.scopeOver d .document)).ClosesLate d) := by
  constructor
  · intro scope
    by_cases sound : f.scopes = [] ∧ f.WellFormed d c scope
    · rw [(collect_tours sound.1 sound.2).failsLate_iff]
      simp [sound]
    · have quiet := (collect_flawed sound).not_failsLate
      grind
  · by_cases sound : f.WellFormed d c (f.scopeOver d .document)
    · rw [(Matches.ofFilters_tours sound).failsLate_iff]
      simp [sound]
    · have quiet := (Matches.ofFilters_flawed sound).not_failsLate
      simp [sound, quiet]

def testThenMissing : FilterSet :=
  andCollector (whereTest .empty fun _ => true) (elementIds .empty [⟨9⟩])

theorem testThenMissing_fails_late :
    let d := Document.ofList 0 [.new ⟨1⟩ .wall]
    (Matches.ofFilters d {} testThenMissing).outcome = .error (.document (.missingElement ⟨9⟩)) ∧
    (Matches.ofFilters d {} testThenMissing).pulls = 1 ∧
    (Matches.ofFilters d {} testThenMissing).trials.map (fun trial => trial.2.id) = [⟨1⟩] :=
  ⟨rfl, rfl, rfl⟩

/-- The trials of a set by itself: its test, if it has one, on every element of the scope that meets
the filters of the first three tiers, once each and in ascending order. -/
structure OwnTrials (d : Document) (f : FilterSet) (scope : Scope) (trials : List Trial) :
    Prop where
  ascending : trials.Pairwise fun a b => a.2.id < b.2.id
  exact : ∀ t e, (t, e) ∈ trials ↔ f.test? = some t ∧ d.element? e.id = some e ∧ scope.holds e ∧
    f.meets d FilterKind.native e

inductive Traces (d : Document) : FilterSet → Scope → List Trial → Prop where
  | inOrder {f : FilterSet} {scope : Scope} {own ands ors : List Trial}
      (itself : f.OwnTrials d scope own)
      (and : ∀ g, f.nested? .andCollector = some g → Traces d g (g.scopeOver d scope) ands)
      (noAnd : f.nested? .andCollector = none → ands = [])
      (or : ∀ g, f.nested? .orCollector = some g → Traces d g (g.scopeOver d scope) ors)
      (noOr : f.nested? .orCollector = none → ors = []) :
      Traces d f scope (own ++ (ands ++ ors))

theorem ownTrials_ownTrials (d : Document) (f : FilterSet) (scope : Scope) :
    f.OwnTrials d scope (f.ownTrials d scope) := by
  rw [ownTrials]
  cases named : f.test? with
  | none => exact ⟨.nil, by simp [named]⟩
  | some t =>
    refine ⟨List.pairwise_map.mpr (d.ascending.filter _), fun other e => ?_⟩
    simp only [Option.elim_some, List.mem_map, List.mem_filter, Document.element?_eq_some_iff,
      named]
    grind

theorem traces_visits (d : Document) (f : FilterSet) (scope : Scope) :
    f.Traces d scope ((f.visits d scope).trials d) := by
  induction f using nested_induction generalizing scope with
  | around f ih =>
    have parts : (f.visits d scope).trials d = f.ownTrials d scope ++
        ((f.nestedVisits d .andCollector scope).trials d ++
          (f.nestedVisits d .orCollector scope).trials d) := by
      rw [visits_eq, ← Visits.trials_append]
      rfl
    rw [parts]
    refine .inOrder (ownTrials_ownTrials d f scope) ?_ ?_ ?_ ?_
    · intro g nested
      simpa [nestedVisits, nested] using ih _ g nested (g.scopeOver d scope)
    · intro missing
      simp [nestedVisits, missing, Visits.trials]
    · intro g nested
      simpa [nestedVisits, nested] using ih _ g nested (g.scopeOver d scope)
    · intro missing
      simp [nestedVisits, missing, Visits.trials]

/-- A run that succeeds makes the trace of its set, and pulls one element for each trial. -/
theorem collect_traces (d : Document) (c : Config) (f : FilterSet) (scope : Scope) (s : Selection)
    (collected : (f.collect d c scope).outcome = .ok s) :
    f.Traces d scope (f.collect d c scope).trials ∧
      (f.collect d c scope).pulls = (f.collect d c scope).trials.length := by
  by_cases sound : f.scopes = [] ∧ f.WellFormed d c scope
  · have toured := collect_tours sound.1 sound.2
    obtain ⟨opens, _⟩ := toured.ok_iff.mp collected
    rw [toured.pulls_eq, toured.trials_eq, Visits.untilClosed_of_allOpen opens]
    exact ⟨traces_visits d f scope, rfl⟩
  · exact absurd collected (collect_flawed sound).not_ok

theorem lateWallsOrNotes_traces :
    let x := collect (.sample 0) {} .document Matches.lateWallsOrNotes
    x.outcome = .ok ⟨.sample 0, [⟨22⟩, ⟨23⟩, ⟨41⟩]⟩ ∧
    x.trials.map (fun trial => trial.2.id) = [⟨21⟩, ⟨22⟩, ⟨23⟩, ⟨41⟩] ∧ x.pulls = 4 ∧
    Traces (.sample 0) Matches.lateWallsOrNotes .document x.trials :=
  ⟨rfl, rfl, rfl, (collect_traces (.sample 0) {} Matches.lateWallsOrNotes .document _ rfl).1⟩

end FilterSet

end Sieve
