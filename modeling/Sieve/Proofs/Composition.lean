import Sieve.Proofs.Planning

/-!
Carrying plans out. A plan makes the tests of the sets that it visits, one set after another, until
a scope does not open; if all open, its selection is what its set selects.
-/

namespace Sieve

def Step.Narrows (d : Document) (step : Step) (q : Element → Bool) : Prop :=
  ∀ p, (step.run d (d.select p)).Does [] (some (d.select fun e => p e && q e))

namespace Step

variable {d : Document} {q : Element → Bool}

theorem keep_narrows {c : Criterion} (same : ∀ e, c.holds e = q e) : (keep c).Narrows d q := by
  intro p
  refine .of_quiet rfl ?_
  rw [← funext same, ← Selection.apply_select]
  rfl

theorem exclude_narrows {ids : List ElementId} (same : ∀ e, (!ids.contains e.id) = q e) :
    (exclude ids).Narrows d q := by
  intro p
  rw [← funext same, ← Selection.exclude_select]
  exact Selection.exclude_unless_empty ids

end Step

namespace FilterKind

variable {d : Document} {value : FilterValue} {step : Step}

/-- A filter that neither tests nor combines keeps the elements that meet it. -/
theorem step_narrows {k : FilterKind} (plain : k ∈ native ∨ k = exclude)
    (planned : (k.step d value).outcome = .ok step) : step.Narrows d (k.holds d value) := by
  cases k with
  | ofClass =>
    simp only [FilterKind.step, Run.bind_ok_iff, resolveClass_ok_iff, Run.outcome_pure,
      Except.ok.injEq] at planned
    obtain ⟨c, named, rfl⟩ := planned
    exact Step.keep_narrows fun e => by simp [Criterion.holds, holds, named]
  | ofCategory =>
    simp only [FilterKind.step, Run.bind_ok_iff, resolveCategory_ok_iff, Run.outcome_pure,
      Except.ok.injEq] at planned
    obtain ⟨c, named, rfl⟩ := planned
    exact Step.keep_narrows fun e => by simp [Criterion.holds, holds, named]
  | isType | isNotType | isViewIndependent | isCurveDriven =>
    simp only [FilterKind.step, Run.bind_ok_iff, flag_ok_iff, Option.map_eq_some_iff,
      Run.outcome_pure, Except.ok.injEq] at planned
    obtain ⟨_, ⟨b, given, rfl⟩, rfl⟩ := planned
    exact Step.keep_narrows fun e => by cases b <;> simp [Criterion.holds, holds, given]
  | family | ownerView | symbol | level | notLevel =>
    simp only [FilterKind.step, Run.bind_ok_iff, element_ok_iff, Run.outcome_pure,
      Except.ok.injEq] at planned
    obtain ⟨id, named, rfl⟩ := planned
    exact Step.keep_narrows fun e => by simp [Criterion.holds, holds, named, bne]
  | parameterFilter =>
    cases value with
    | parameter p =>
      obtain rfl := Except.ok.inj planned
      exact Step.keep_narrows fun e => by
        simp [Criterion.holds, holds, FilterValue.parameter?]
    | _ => cases planned
  | exclude =>
    simp only [FilterKind.step] at planned
    split at planned
    · next refs given =>
      simp only [Run.bind_ok_iff, ElementRef.outcome_resolveAll, mapError_eq_ok_iff,
        Run.outcome_pure, Except.ok.injEq] at planned
      obtain ⟨ids, named, rfl⟩ := planned
      refine Step.exclude_narrows fun e => ?_
      simp [holds, FilterValue.targets?, given, named, Except.toOption, Ascending.ofList,
        Ascending.mem_insertAll_id]
    · cases planned
  | whereTest | andCollector | orCollector => exact absurd plain (by decide)

theorem step_whereTest_ok_iff :
    (whereTest.step d value).outcome = .ok step ↔ ∃ t, value.test? = some t ∧ .test t = step := by
  cases value <;> simp [FilterKind.step, FilterValue.test?, misfit]

end FilterKind

theorem runSteps_append (d : Document) (first last : List (FilterKind × Step)) :
    runSteps d (first ++ last) = fun s => runSteps d first s >>= runSteps d last := by
  funext s
  induction first generalizing s with
  | nil => simp [runSteps]
  | cons entry more ih => simp [runSteps, ih]

theorem runSteps_single {d : Document} (k : FilterKind) (step : Step) (s : Selection) :
    runSteps d [(k, step)] s = step.run d s := by
  simp [runSteps]

section

variable {d : Document} {scope : Scope} {steps : List (FilterKind × Step)}

/-- Over a scope that opens a plan does what its steps do to the whole scope. -/
theorem Plan.run_open {trials : List Trial} {result : Option Selection} (opens : d.opens scope)
    (did : (runSteps d steps (d.select scope.holds)).Does trials result) :
    ((Plan.over scope steps).run d).Does trials result := by
  have opened : (Run.call (.query scope) (Selection.ofScope d scope)).Does []
      (some (d.select scope.holds)) :=
    .of_quiet rfl (Selection.ofScope_of_opens opens)
  rw [Plan.run]
  exact opened.bind did

theorem Plan.run_closed (closed : ¬ d.opens scope) :
    ((Plan.over scope steps).run d).Does [] none := by
  obtain ⟨cause, failed⟩ := Selection.ofScope_of_not_opens closed
  have stopped : (Run.call (.query scope) (Selection.ofScope d scope)).Does [] none :=
    ⟨rfl, by rw [Run.outcome_call, failed]; rfl⟩
  rw [Plan.run]
  exact stopped.stop

end

namespace FilterSet

variable {d : Document} {c : Config} {f : FilterSet} {scope : Scope}
  {steps : List (FilterKind × Step)}

@[simp] theorem meets_nil (d : Document) (f : FilterSet) (e : Element) : f.meets d [] e := rfl

theorem meets_cons (d : Document) (f : FilterSet) (k : FilterKind) (kinds : List FilterKind)
    (e : Element) : f.meets d (k :: kinds) e =
      ((f.get? k.name).all (fun value => k.holds d value e) && f.meets d kinds e) := rfl

/-- Filters that a set does not name count for nothing. -/
theorem meets_of_named {kinds more : List FilterKind} {e : Element}
    (named : ∀ k ∈ kinds, (f.get? k.name).isSome → k ∈ more) (meets : f.meets d more e) :
    f.meets d kinds e := by
  simp only [FilterSet.meets, List.all_eq_true, Option.all_eq_true] at meets ⊢
  intro k member value found
  exact meets k (named k member (by simp [found])) value found

theorem meets_filter_named (kinds : List FilterKind) :
    f.meets d (kinds.filter fun k => (f.get? k.name).isSome) = f.meets d kinds := by
  funext e
  refine Bool.eq_iff_iff.mpr ⟨meets_of_named fun k member named => ?_, meets_of_named ?_⟩
  · exact List.mem_filter.mpr ⟨member, named⟩
  · exact fun k member _ => (List.mem_filter.mp member).1

theorem narrows_of_step {k : FilterKind} {value : FilterValue} {step : Step}
    (found : f.get? k.name = some value) (plain : k ∈ FilterKind.native ∨ k = .exclude)
    (made : (k.step d value).outcome = .ok step) : step.Narrows d (f.meets d [k]) := by
  have same : f.meets d [k] = k.holds d value := by
    funext e
    simp [meets_cons, found]
  exact same ▸ FilterKind.step_narrows plain made

/-- Steps that narrow do so together, by all their filters and without any work. -/
theorem runSteps_narrow (each : ∀ entry ∈ steps, entry.2.Narrows d (f.meets d [entry.1]))
    (p : Element → Bool) :
    (runSteps d steps (d.select p)).Does []
      (some (d.select fun e => p e && f.meets d (steps.map Prod.fst) e)) := by
  induction steps generalizing p with
  | nil => exact .of_quiet rfl (by simp [runSteps])
  | cons entry rest ih =>
    have first := each entry List.mem_cons_self p
    have later := ih (fun entry member => each entry (List.mem_cons_of_mem _ member))
      fun e => p e && f.meets d [entry.1] e
    have both := first.bind (g := runSteps d rest) later
    have parts : (fun e => p e && f.meets d ((entry :: rest).map Prod.fst) e) = fun e =>
        (p e && f.meets d [entry.1] e) && f.meets d (rest.map Prod.fst) e := by
      funext e
      simp [meets_cons, Bool.and_assoc]
    rw [parts]
    exact both

/-- The steps of native filters and of exclusions keep what meets the filters. -/
theorem run_narrowing {kinds : List FilterKind}
    (plain : ∀ k ∈ kinds, k ∈ FilterKind.native ∨ k = .exclude)
    (planned : (planSteps ⟨planners d c f.toList⟩ scope kinds).outcome = .ok steps)
    (p : Element → Bool) :
    (runSteps d steps (d.select p)).Does []
      (some (d.select fun e => p e && f.meets d kinds e)) := by
  have named := planSteps_kinds planned
  have each : ∀ entry ∈ steps, entry.2.Narrows d (f.meets d [entry.1]) := by
    rintro ⟨k, step⟩ member
    obtain ⟨value, found, made⟩ := planner_of_mem planned member
    have kind : k ∈ steps.map Prod.fst := List.mem_map_of_mem member
    have first := plain k (List.mem_filter.mp (named ▸ kind)).1
    have leaf : k.tier ≠ .logical := by revert first; cases k <;> decide
    exact narrows_of_step found first (outcome_planner value scope leaf ▸ made)
  have run := runSteps_narrow each p
  rwa [named, meets_filter_named] at run

theorem planSteps_single_ok_iff {k : FilterKind} :
    (planSteps ⟨planners d c f.toList⟩ scope [k]).outcome = .ok steps ↔
      match f.get? k.name with
      | none => steps = []
      | some value =>
        ∃ step, (planner d c value k scope).outcome = .ok step ∧ steps = [(k, step)] := by
  rw [planSteps_cons_ok_iff]
  cases f.get? k.name <;> simp [planSteps]

theorem run_whereTest
    (planned : (planSteps ⟨planners d c f.toList⟩ scope [.whereTest]).outcome = .ok steps)
    (p : Element → Bool) :
    (runSteps d steps (d.select p)).Does
      (f.test?.elim [] fun t => (d.elements.filter p).map fun e => (t, e))
      (some (d.select fun e => p e && f.meets d [.whereTest] e)) := by
  rw [planSteps_single_ok_iff] at planned
  cases found : f.get? FilterKind.whereTest.name with
  | none =>
    simp only [found] at planned
    subst planned
    simp only [test?, found, meets_cons, Option.bind_none, Option.elim_none, Option.all_none,
      meets_nil, Bool.and_true]
    exact .of_quiet rfl rfl
  | some value =>
    simp only [found] at planned
    obtain ⟨step, single, rfl⟩ := planned
    rw [outcome_planner value scope (by decide)] at single
    obtain ⟨t, given, rfl⟩ := FilterKind.step_whereTest_ok_iff.mp single
    have tested := Selection.keepPassing_select (d := d) (p := p) t
    simpa [runSteps_single, Step.run, test?, found, given, meets_cons, FilterKind.holds]
      using tested

end FilterSet

namespace Visits

variable {d : Document} {first rest : Visits}

theorem allOpen_append : allOpen d (first ++ rest) = (allOpen d first && allOpen d rest) :=
  List.all_append

theorem trials_append : trials d (first ++ rest) = trials d first ++ trials d rest :=
  List.flatMap_append

theorem untilClosed_append_of_allOpen (opens : allOpen d first) :
    untilClosed d (first ++ rest) = first ++ untilClosed d rest :=
  List.takeWhile_append_of_pos (by simpa [allOpen] using opens)

theorem untilClosed_of_allOpen (opens : allOpen d first) : untilClosed d first = first := by
  have parts : untilClosed d (first ++ []) = first ++ untilClosed d [] :=
    untilClosed_append_of_allOpen opens
  simpa [untilClosed] using parts

theorem untilClosed_append_of_not_allOpen (closed : ¬ allOpen d first) :
    untilClosed d (first ++ rest) = untilClosed d first := by
  induction first with
  | nil => simp [allOpen] at closed
  | cons visit more ih =>
    cases opens : d.opens visit.2 with
    | false => simp [untilClosed, opens]
    | true =>
      have later : ¬ allOpen d more := by simpa [allOpen, opens] using closed
      simpa [untilClosed, List.takeWhile_cons, opens] using ih later

end Visits

/-- The run makes the tests of the visited sets until a scope does not open, and fails there; if all
open, it ends in the value. -/
def Run.Tours {α : Type} (d : Document) (x : Run α) (visits : Visits) (a : α) : Prop :=
  x.Does ((visits.untilClosed d).trials d) (if visits.allOpen d then some a else none)

namespace Run.Tours

variable {α β : Type} {d : Document} {x : Run α} {g : α → Run β} {a : α} {b : β}
  {first rest : Visits}

theorem of_does (did : x.Does [] (some a)) : x.Tours d [] a := did

theorem bind (toured : x.Tours d first a) (after : (g a).Tours d rest b) :
    (x >>= g).Tours d (first ++ rest) b := by
  rw [Tours] at toured after ⊢
  rw [Visits.allOpen_append]
  cases opens : first.allOpen d with
  | true =>
    rw [Visits.untilClosed_append_of_allOpen opens, Visits.trials_append, Bool.true_and]
    rw [Visits.untilClosed_of_allOpen opens, if_pos opens] at toured
    exact Does.bind toured after
  | false =>
    have closed : ¬ first.allOpen d := by simp [opens]
    rw [Visits.untilClosed_append_of_not_allOpen closed, Bool.false_and, if_neg (by decide)]
    rw [if_neg closed] at toured
    exact Does.stop toured

theorem then_quiet (toured : x.Tours d first a) (after : (g a).Does [] (some b)) :
    (x >>= g).Tours d first b := by
  simpa using toured.bind (of_does after)

end Run.Tours

/-- How a combination puts what is nested under it together with what is there. -/
def FilterKind.join : FilterKind → Bool → Bool → Bool
  | orCollector, here, nested => here || nested
  | _, here, nested => here && nested

theorem FilterKind.combine_tours {d : Document} {nested : Plan} {visits : Visits}
    {p q : Element → Bool} (k : FilterKind) (toured : (nested.run d).Tours d visits (d.select q)) :
    ((k.combine nested).run d (d.select p)).Tours d visits
      (d.select fun e => k.join (p e) (q e)) := by
  cases k with
  | orCollector => exact toured.then_quiet (.of_quiet rfl Selection.union_select)
  | _ => exact toured.then_quiet (.of_quiet rfl Selection.intersect_select)

namespace FilterSet

variable {d : Document} {c : Config} {f : FilterSet} {scope : Scope} {p : Plan}
  {steps : List (FilterKind × Step)}

def combined (d : Document) (f : FilterSet) (k : FilterKind) (scope : Scope) (p : Element → Bool)
    (e : Element) : Bool :=
  (f.nested? k).elim (p e) fun g => k.join (p e) (g.selects d (g.scopeOver d scope) e)

theorem selects_eq_combined (d : Document) (f : FilterSet) (scope : Scope) :
    f.selects d scope = f.combined d .orCollector scope
      (f.combined d .andCollector scope fun e => scope.holds e && f.meets d FilterKind.all e) := by
  funext e
  rw [selects_eq]
  cases ands : f.nested? .andCollector <;> cases ors : f.nested? .orCollector <;>
    simp [combined, ands, ors, FilterKind.join]

theorem run_combination {k : FilterKind} (logical : k.tier = .logical)
    (ih : ∀ g, f.nested? k = some g → ∀ {scope p}, (g.plan d c scope).outcome = .ok p →
      (p.run d).Tours d (g.visits d scope) (d.select (g.selects d scope)))
    (planned : (planSteps ⟨planners d c f.toList⟩ scope [k]).outcome = .ok steps)
    (p : Element → Bool) :
    (runSteps d steps (d.select p)).Tours d (f.nestedVisits d k scope)
      (d.select (f.combined d k scope p)) := by
  rw [planSteps_single_ok_iff] at planned
  cases found : f.get? k.name with
  | none =>
    simp only [found] at planned
    have absent : f.nested? k = none := by simp [nested?, found]
    have unchanged : f.combined d k scope p = p := by
      funext e
      simp [combined, absent]
    rw [planned, nestedVisits, absent, unchanged]
    exact .of_does (.of_quiet rfl rfl)
  | some value =>
    simp only [found] at planned
    obtain ⟨step, single, rfl⟩ := planned
    obtain ⟨g, inner, rfl, planned, rfl⟩ := (planner_combination_ok_iff logical).mp single
    have nested := nested?_eq_some_iff.mpr found
    have toured := ih g nested (planNested_ok_iff.mp planned).2
    have joined : f.combined d k scope p = fun e =>
        k.join (p e) (selects d g (scopeOver d g scope) e) := by
      funext e
      simp [combined, nested]
    rw [runSteps_single, nestedVisits, nested, joined]
    exact k.combine_tours toured

/-- The filters in the order of the plan, cut where the work of the steps differs. -/
theorem byTier_eq :
    FilterKind.byTier = FilterKind.native ++ ([.whereTest] ++ ([.exclude] ++
      ([.andCollector] ++ [.orCollector]))) := by decide

theorem meets_all (d : Document) (f : FilterSet) (e : Element) :
    f.meets d FilterKind.all e =
      (f.meets d FilterKind.native e && f.meets d [.whereTest] e && f.meets d [.exclude] e) := by
  have all : FilterKind.all =
      FilterKind.native ++ [.whereTest, .exclude, .andCollector, .orCollector] := by decide
  rw [all]
  simp [meets, FilterKind.holds, Bool.and_assoc]

/-- The part of a plan before its combinations: one visit to the set itself. -/
theorem run_own {native test exclude : List (FilterKind × Step)}
    (natives : (planSteps ⟨planners d c f.toList⟩ scope FilterKind.native).outcome = .ok native)
    (tests : (planSteps ⟨planners d c f.toList⟩ scope [.whereTest]).outcome = .ok test)
    (excludes : (planSteps ⟨planners d c f.toList⟩ scope [.exclude]).outcome = .ok exclude) :
    ((Plan.over scope (native ++ (test ++ exclude))).run d).Tours d [(f, scope)]
      (d.select fun e => scope.holds e && f.meets d FilterKind.all e) := by
  cases opens : d.opens scope with
  | false =>
    have closed : ¬ d.opens scope := by simp [opens]
    simpa [Run.Tours, Visits.untilClosed, Visits.allOpen, Visits.trials, opens] using
      Plan.run_closed closed
  | true =>
    have narrowed := run_narrowing (fun k member => .inl member) natives scope.holds
    have tested := run_whereTest tests fun e => scope.holds e && f.meets d FilterKind.native e
    have excluded := run_narrowing (by simp) excludes fun e =>
      (scope.holds e && f.meets d FilterKind.native e) && f.meets d [.whereTest] e
    have did := narrowed.bind (g := fun s => runSteps d test s >>= runSteps d exclude)
      (tested.bind excluded)
    have kept : (fun e => scope.holds e && f.meets d FilterKind.all e) = fun e =>
        ((scope.holds e && f.meets d FilterKind.native e) && f.meets d [.whereTest] e) &&
          f.meets d [.exclude] e := by
      funext e
      rw [meets_all, ← Bool.and_assoc, ← Bool.and_assoc]
    refine Plan.run_open opens ?_
    simpa [Visits.untilClosed, Visits.allOpen, Visits.trials, opens, ownTrials, runSteps_append,
      kept] using did

/-- What a plan does, told by the set alone. Every nested plan runs over its own full scope, whatever
the selection is by then. -/
theorem run_plan (planned : (f.plan d c scope).outcome = .ok p) :
    (p.run d).Tours d (f.visits d scope) (d.select (f.selects d scope)) := by
  induction f using nested_induction generalizing scope p with
  | around f ih =>
    obtain ⟨steps, filters, rfl⟩ := plan_ok_iff.mp planned
    -- One group of steps for each way of working; each starts from the selection before it.
    rw [byTier_eq] at filters
    simp only [planSteps_append_ok_iff] at filters
    obtain ⟨native, _, natives, ⟨test, _, tests, ⟨exclude, _, excludes, ⟨and, or, ands, ors,
      rfl⟩, rfl⟩, rfl⟩, rfl⟩ := filters
    have own := run_own natives tests excludes
    have intersected := run_combination rfl (ih _) ands fun e =>
      scope.holds e && f.meets d FilterKind.all e
    have united := run_combination rfl (ih _) ors (f.combined d .andCollector scope fun e =>
      scope.holds e && f.meets d FilterKind.all e)
    have toured := own.bind (g := fun s => runSteps d and s >>= runSteps d or)
      (intersected.bind united)
    rw [visits_eq, selects_eq_combined]
    simpa [Plan.run, runSteps_append] using toured

end FilterSet

end Sieve
