import Sieve.Document.Sample
import Sieve.Matches
import Sieve.Proofs.Composition
import Sieve.Proofs.WellFormed

/-!
Whole queries. A set that is not well-formed fails without any work; any other is carried out as far
as its scopes open, and if they all do, the answer is what the set selects.
-/

namespace Sieve

theorem Run.Tours.ok_iff {α : Type} {d : Document} {x : Run α} {visits : Visits} {a b : α}
    (toured : x.Tours d visits a) : x.outcome = .ok b ↔ visits.allOpen d ∧ a = b := by
  rw [← toOption_eq_some_iff, toured.result]
  cases visits.allOpen d <;> simp

theorem Run.Does.not_ok {α : Type} {x : Run α} {trials : List Trial} {b : α}
    (did : x.Does trials none) : x.outcome ≠ .ok b := by
  obtain ⟨e, failed⟩ := did.failed
  simp [failed]

namespace FilterSet

variable {d : Document} {c : Config} {f : FilterSet} {scope : Scope}

theorem collect_planned (valid : f.validate = .ok ()) {p : Plan}
    (planned : (f.plan d c scope).outcome = .ok p) :
    (f.collect d c scope).Tours d (f.visits d scope) (d.select (f.selects d scope)) := by
  have checked : (Run.ofExcept f.validate).Does [] (some ()) := .of_quiet rfl valid
  have made : (f.plan d c scope).Does [] (some p) := .of_quiet (plan_quiet d c f scope) planned
  exact (Run.Tours.of_does checked).bind ((Run.Tours.of_does made).bind (run_plan planned))

/-- Without a plan nothing is pulled or tested. -/
theorem collect_unplanned
    (flawed : ¬ (f.validate = .ok () ∧ ∃ p, (f.plan d c scope).outcome = .ok p)) :
    (f.collect d c scope).Does [] none := by
  have quiet : (Run.ofExcept f.validate >>= fun _ => f.plan d c scope).work = [] :=
    Run.work_bind_eq_nil rfl fun _ _ => plan_quiet d c f scope
  have stopped : (Run.ofExcept f.validate >>= fun _ => f.plan d c scope).Does [] none := by
    refine ⟨quiet, Option.eq_none_iff_forall_ne_some.mpr fun p ended => flawed ?_⟩
    obtain ⟨_, valid, planned⟩ := Run.bind_ok_iff.mp (toOption_eq_some_iff.mp ended)
    exact ⟨valid, p, planned⟩
  simpa [collect] using stopped.stop (g := fun p => p.run d)

theorem collect_tours (free : f.scopes = []) (wellFormed : f.WellFormed d c scope) :
    (f.collect d c scope).Tours d (f.visits d scope) (d.select (f.selects d scope)) := by
  obtain ⟨valid, p, planned⟩ := planned_iff.mpr ⟨free, wellFormed⟩
  exact collect_planned valid planned

theorem collect_flawed (flawed : ¬ (f.scopes = [] ∧ f.WellFormed d c scope)) :
    (f.collect d c scope).Does [] none :=
  collect_unplanned (mt planned_iff.mp flawed)

end FilterSet

namespace Matches

open FilterSet

variable {d : Document} {c : Config} {f : FilterSet} {scope : Scope} {m : Matches}

theorem inScope_ok_iff :
    (inScope d c scope f).outcome = .ok m ↔
      ∃ s, (f.collect d c scope).outcome = .ok s ∧ ⟨scope, s⟩ = m := by
  simp [inScope, Run.map_ok_iff]

theorem ofFilters_eq (d : Document) (c : Config) (f : FilterSet) :
    ofFilters d c f = f.resolveScope d c >>= fun found =>
      f.withoutScopes.collect d c (found.getD .document) >>= fun s =>
        pure ⟨found.getD .document, s⟩ := by
  simp [ofFilters, query]

/-- The set's own scope is resolved first; its other keys then count over that scope. -/
theorem ofFilters_tours (wellFormed : f.WellFormed d c (f.scopeOver d .document)) :
    (ofFilters d c f).Tours d (f.visits d (f.scopeOver d .document))
      ⟨f.scopeOver d .document, d.select (f.selects d (f.scopeOver d .document))⟩ := by
  obtain ⟨ownScope, valid, p, planned⟩ := planned_withoutScopes_iff.mpr wellFormed
  obtain ⟨found, named⟩ := scoped_iff.mpr ownScope
  have resolved : (f.resolveScope d c).Does [] (some found) :=
    .of_quiet (resolveScope_quiet d c f) named
  have collected := collect_planned valid planned
  rw [Run.Tours, allOpen_withoutScopes, trials_withoutScopes, selects_withoutScopes] at collected
  rw [ofFilters_eq]
  refine (Run.Tours.of_does resolved).bind ?_
  simp only [getD_of_resolveScope named]
  exact Run.Tours.then_quiet collected (.of_quiet rfl rfl)

theorem ofFilters_flawed (flawed : ¬ f.WellFormed d c (f.scopeOver d .document)) :
    (ofFilters d c f).Does [] none := by
  rw [ofFilters_eq]
  cases ended : (f.resolveScope d c).outcome with
  | error e =>
    have stopped : (f.resolveScope d c).Does [] none :=
      ⟨resolveScope_quiet d c f, by rw [ended]; rfl⟩
    exact stopped.stop
  | ok found =>
    have resolved : (f.resolveScope d c).Does [] (some found) :=
      .of_quiet (resolveScope_quiet d c f) ended
    have unplanned : (f.withoutScopes.collect d c (f.scopeOver d .document)).Does [] none :=
      collect_unplanned fun sound =>
        flawed (planned_withoutScopes_iff.mp ⟨scoped_iff.mp ⟨found, ended⟩, sound⟩)
    refine resolved.bind ?_
    rw [getD_of_resolveScope ended]
    exact unplanned.stop

structure Answers (d : Document) (f : FilterSet) (m : Matches) : Prop where
  ascending : m.ids.Pairwise (· < ·)
  exact : ∀ id, id ∈ m.ids ↔ ∃ e, d.element? id = some e ∧ f.selects d m.scope e

theorem answers_select (d : Document) (f : FilterSet) (scope : Scope) :
    Answers d f ⟨scope, d.select (f.selects d scope)⟩ :=
  ⟨d.select_ascending _, fun _ => Document.mem_select⟩

/-- Every query that succeeds, over its own scope or a given one, answers what its set selects. -/
theorem answers_of_ok (d : Document) (c : Config) (f : FilterSet) (m : Matches) :
    (∀ scope, (inScope d c scope f).outcome = .ok m → m.scope = scope ∧ m.Answers d f) ∧
    ((ofFilters d c f).outcome = .ok m →
      m.scope = f.scopeOver d .document ∧ m.Answers d f) := by
  constructor
  · intro scope answered
    obtain ⟨s, collected, rfl⟩ := inScope_ok_iff.mp answered
    by_cases sound : f.scopes = [] ∧ f.WellFormed d c scope
    · obtain ⟨_, rfl⟩ := (collect_tours sound.1 sound.2).ok_iff.mp collected
      exact ⟨rfl, answers_select d f scope⟩
    · exact absurd collected (collect_flawed sound).not_ok
  · intro answered
    by_cases sound : f.WellFormed d c (f.scopeOver d .document)
    · obtain ⟨_, rfl⟩ := (ofFilters_tours sound).ok_iff.mp answered
      exact ⟨rfl, answers_select d f _⟩
    · exact absurd answered (ofFilters_flawed sound).not_ok

def lateWallsOrNotes : FilterSet :=
  orCollector (whereTest (ofClass .empty (.token .wall)) fun e => e.id != ⟨21⟩)
    (whereTest (ofCategory (view .empty (.number 11)) (.token .textNotes)) fun e => !e.isType)

theorem lateWallsOrNotes_answers :
    let m : Matches := ⟨.document, .sample 0, [⟨22⟩, ⟨23⟩, ⟨41⟩]⟩
    (inScope (.sample 0) {} .document lateWallsOrNotes).outcome = .ok m ∧
    (ofFilters (.sample 0) {} lateWallsOrNotes).outcome = .ok m ∧
    m.Answers (.sample 0) lateWallsOrNotes :=
  ⟨rfl, rfl, ((answers_of_ok (.sample 0) {} lateWallsOrNotes _).1 .document rfl).2⟩

/-- A set that is well-formed over its own scope and reaches only scopes that open. -/
structure Accepts (d : Document) (c : Config) (f : FilterSet) : Prop where
  wellFormed : f.WellFormed d c (f.scopeOver d .document)
  opens : ∀ visit ∈ f.visits d (f.scopeOver d .document), d.opens visit.2

theorem Accepts.of_ok (answered : (ofFilters d c f).outcome = .ok m) : Accepts d c f := by
  by_cases sound : f.WellFormed d c (f.scopeOver d .document)
  · obtain ⟨opens, _⟩ := (ofFilters_tours sound).ok_iff.mp answered
    exact ⟨sound, List.all_eq_true.mp opens⟩
  · exact absurd answered (ofFilters_flawed sound).not_ok

/-- A query succeeds exactly if its set is in order and all its scopes open. -/
theorem ofFilters_succeeds_iff (d : Document) (c : Config) (f : FilterSet) :
    (∃ m, (ofFilters d c f).outcome = .ok m) ↔ Accepts d c f := by
  constructor
  · rintro ⟨m, answered⟩
    exact .of_ok answered
  · rintro ⟨wellFormed, opens⟩
    exact ⟨_, (ofFilters_tours wellFormed).ok_iff.mpr ⟨List.all_eq_true.mpr opens, rfl⟩⟩

end Matches

end Sieve
