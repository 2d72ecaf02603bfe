import Sieve.Proofs.Meaning

/-!
What planning makes of a set. It asks the document for references only and does no work; it succeeds
exactly when every scope and every value counts for something, and its steps then stand in the order
of the tiers, one for each filter of the set.
-/

namespace Sieve

theorem toOption_eq_some_iff {ε α : Type} {x : Except ε α} {a : α} :
    x.toOption = some a ↔ x = .ok a := by
  cases x <;> simp [Except.toOption]

theorem mapError_eq_ok_iff {ε ε' α : Type} {x : Except ε α} {f : ε → ε'} {a : α} :
    x.mapError f = .ok a ↔ x = .ok a := by
  cases x <;> simp [Except.mapError]

namespace ElementRef

variable {d : Document}

theorem resolve_quiet (d : Document) (r : ElementRef) : (r.resolve d).work = [] := by
  cases r <;> rfl

theorem outcome_resolve (d : Document) (r : ElementRef) :
    (r.resolve d).outcome = (r.target d).mapError .reference := rfl

theorem resolveAll_quiet (d : Document) (refs : List ElementRef) :
    (resolveAll d refs).work = [] := by
  induction refs with
  | nil => rfl
  | cons r rest ih =>
    rw [resolveAll, List.mapM_cons]
    exact Run.work_bind_eq_nil (resolve_quiet d r) fun _ _ =>
      Run.work_bind_eq_nil ih fun _ _ => rfl

theorem outcome_resolveAll (d : Document) (refs : List ElementRef) :
    (resolveAll d refs).outcome = (targets d refs).mapError .reference := by
  induction refs with
  | nil => rfl
  | cons r rest ih =>
    rw [resolveAll, targets] at ih
    rw [resolveAll, targets, List.mapM_cons, List.mapM_cons, Run.outcome_bind, outcome_resolve]
    cases r.target d with
    | error cause => rfl
    | ok id =>
      change (rest.mapM (resolve d) >>= fun ids => pure (id :: ids)).outcome = _
      rw [Run.outcome_bind, ih]
      cases rest.mapM (target d) <;> rfl

end ElementRef

def Step.nested? : Step → Option Plan
  | .intersect nested | .union nested => some nested
  | _ => none

namespace FilterKind

variable {d : Document} {k : FilterKind} {value : FilterValue}

theorem flag_quiet (k : FilterKind) (negated : Bool) (value : FilterValue) :
    (k.flag negated value).work = [] := by
  cases value <;> rfl

theorem flag_ok_iff {negated b : Bool} :
    (k.flag negated value).outcome = .ok b ↔ value.flag?.map (· != negated) = some b := by
  cases value <;> simp [flag, misfit, FilterValue.flag?]

theorem element_quiet (d : Document) (k : FilterKind) (value : FilterValue) :
    (k.element d value).work = [] := by
  rw [element]
  split
  · exact ElementRef.resolve_quiet _ _
  · rfl

theorem element_ok_iff {id : ElementId} :
    (k.element d value).outcome = .ok id ↔ value.target? d = some id := by
  rw [element, FilterValue.target?]
  split
  · next found =>
    simp [found, ElementRef.outcome_resolve, mapError_eq_ok_iff, toOption_eq_some_iff]
  · next missing => simp [missing, misfit]

theorem resolveClass_quiet (k : FilterKind) (value : FilterValue) :
    (k.resolveClass value).work = [] := by
  rw [resolveClass]
  split <;> rfl

theorem resolveClass_ok_iff {c : ElementClass} :
    (k.resolveClass value).outcome = .ok c ↔ value.class? = some c := by
  rw [resolveClass, FilterValue.class?]
  split
  · next found => simp [found, mapError_eq_ok_iff, toOption_eq_some_iff]
  · next missing => simp [missing, misfit]

theorem sampleCategory_quiet (d : Document) (r : ElementRef) : (sampleCategory d r).work = [] := by
  refine Run.work_bind_eq_nil (ElementRef.resolve_quiet d r) fun id _ => ?_
  split <;> rfl

theorem sampleCategory_ok_iff {r : ElementRef} {ref : CategoryRef} :
    (sampleCategory d r).outcome = .ok ref ↔
      ∃ id e, r.target d = .ok id ∧ d.element? id = some e ∧ .of e = ref := by
  rw [sampleCategory, Run.bind_ok_iff]
  refine exists_congr fun id => ?_
  rw [ElementRef.outcome_resolve, mapError_eq_ok_iff]
  split
  · next found => simp [found]
  · next missing => simp [missing]

theorem resolveCategory_quiet (d : Document) (k : FilterKind) (value : FilterValue) :
    (k.resolveCategory d value).work = [] := by
  cases value with
  | element r => exact Run.work_bind_eq_nil (sampleCategory_quiet d r) fun _ _ => rfl
  | _ => rfl

theorem resolve_of_ok_iff {e : Element} {c : Category} :
    (CategoryRef.of e).resolve = .ok c ↔ e.category = some c := by
  cases category : e.category <;> simp [CategoryRef.of, CategoryRef.resolve, category]

theorem resolveCategory_ok_iff {c : Category} :
    (k.resolveCategory d value).outcome = .ok c ↔ value.category? d = some c := by
  cases value with
  | element r =>
    change (sampleCategory d r >>= fun ref =>
      Run.ofExcept (ref.resolve.mapError .reference)).outcome = .ok c ↔ _
    simp only [Run.bind_ok_iff, sampleCategory_ok_iff, Run.outcome_ofExcept, mapError_eq_ok_iff,
      FilterValue.category?, Option.bind_eq_some_iff, toOption_eq_some_iff]
    constructor
    · rintro ⟨_, ⟨id, e, named, found, rfl⟩, resolved⟩
      exact ⟨id, named, e, found, resolve_of_ok_iff.mp resolved⟩
    · rintro ⟨id, named, e, found, category⟩
      exact ⟨_, ⟨id, e, named, found, rfl⟩, resolve_of_ok_iff.mpr category⟩
  | category | text | number =>
    simp [resolveCategory, FilterValue.category?, mapError_eq_ok_iff, toOption_eq_some_iff]
  | _ => simp [resolveCategory, FilterValue.category?, misfit, -Run.outcome_bind]

def combine : FilterKind → Plan → Step
  | orCollector, nested => .union nested
  | _, nested => .intersect nested

/-- Only combinations have a plan nested in their step. -/
theorem nested?_of_step {step : Step} (planned : (k.step d value).outcome = .ok step) :
    step.nested? = none := by
  cases k with
  | ofClass | ofCategory | isType | isNotType | family | ownerView | isViewIndependent
  | isCurveDriven | symbol | level | notLevel =>
    simp only [FilterKind.step, Run.bind_ok_iff, Run.outcome_pure, Except.ok.injEq] at planned
    obtain ⟨_, _, rfl⟩ := planned
    rfl
  | parameterFilter | whereTest =>
    cases value <;> cases planned
    rfl
  | exclude =>
    simp only [FilterKind.step] at planned
    split at planned
    · simp only [Run.bind_ok_iff, Run.outcome_pure, Except.ok.injEq] at planned
      obtain ⟨_, _, rfl⟩ := planned
      rfl
    · cases planned
  | andCollector | orCollector => cases planned

theorem step_quiet (d : Document) (k : FilterKind) (value : FilterValue) :
    (k.step d value).work = [] := by
  have last {α β : Type} {x : Run α} {f : α → β} (quiet : x.work = []) :
      (x >>= fun a => pure (f a)).work = [] := Run.work_bind_eq_nil quiet fun _ _ => rfl
  cases k with
  | ofClass => exact last (resolveClass_quiet _ _)
  | ofCategory => exact last (resolveCategory_quiet _ _ _)
  | isType | isNotType | isViewIndependent | isCurveDriven => exact last (flag_quiet _ _ _)
  | family | ownerView | symbol | level | notLevel => exact last (element_quiet _ _ _)
  | parameterFilter | whereTest => cases value <;> rfl
  | exclude =>
    rw [step]
    split
    · exact last (ElementRef.resolveAll_quiet _ _)
    · rfl
  | andCollector | orCollector => rfl

end FilterKind

theorem ScopeKey.select_quiet (d : Document) (key : ScopeKey) (value : FilterValue) :
    (key.select d value).work = [] := by
  cases key with
  | view =>
    simp only [select]
    split
    · exact Run.work_map_eq_nil (ElementRef.resolve_quiet _ _)
    · rfl
  | elements | elementIds =>
    simp only [select]
    split
    · exact Run.work_map_eq_nil (ElementRef.resolveAll_quiet _ _)
    · rfl

theorem ScopeKey.select_ok_iff {d : Document} {key : ScopeKey} {value : FilterValue}
    {scope : Scope} :
    (key.select d value).outcome = .ok scope ↔ key.scope? d value = some scope := by
  cases key with
  | view =>
    simp only [select, scope?, FilterValue.target?]
    cases value.elementRef? <;>
      simp [Run.map_ok_iff, ElementRef.outcome_resolve, mapError_eq_ok_iff, toOption_eq_some_iff]
  | elements | elementIds =>
    simp only [select, scope?, FilterValue.targets?]
    cases value.elementRefs? <;>
      simp [Run.map_ok_iff, ElementRef.outcome_resolveAll, mapError_eq_ok_iff, toOption_eq_some_iff]

theorem Config.chooseScope_ok_iff {c : Config} {given : List (ScopeKey × FilterValue)}
    {chosen : Option (ScopeKey × FilterValue)} :
    c.chooseScope given = .ok chosen ↔
      (c.scopePrecedence ∨ given.length ≤ 1) ∧ given.head? = chosen := by
  rcases given with _ | ⟨first, _ | ⟨second, more⟩⟩
  · simp [chooseScope]
  · simp [chooseScope]
  · cases precedence : c.scopePrecedence <;> simp [chooseScope, precedence]

namespace FilterSet

variable {d : Document} {c : Config} {f : FilterSet}

theorem resolveScope_quiet (d : Document) (c : Config) (f : FilterSet) :
    (f.resolveScope d c).work = [] := by
  refine Run.work_bind_eq_nil rfl fun chosen _ => ?_
  split
  · exact Run.work_map_eq_nil (ScopeKey.select_quiet _ _ _)
  · rfl

/-- A set has a scope or none, unless it names too many or its first key has no proper value. -/
theorem resolveScope_ok_iff {found : Option Scope} :
    (f.resolveScope d c).outcome = .ok found ↔
      (c.scopePrecedence ∨ f.scopes.length ≤ 1) ∧
      (∀ given, f.scopes.head? = some given → (given.1.scope? d given.2).isSome) ∧
      (f.scopes.head?.bind fun given => given.1.scope? d given.2) = found := by
  rw [resolveScope, Run.bind_ok_iff]
  simp only [Run.outcome_ofExcept, Config.chooseScope_ok_iff]
  rcases f.scopes.head? with _ | ⟨key, value⟩
  · simp
  · cases selected : key.scope? d value <;> simp [Run.map_ok_iff, ScopeKey.select_ok_iff, selected]

theorem getD_of_resolveScope {found : Option Scope} {outer : Scope}
    (named : (f.resolveScope d c).outcome = .ok found) :
    found.getD outer = f.scopeOver d outer := by
  rw [scopeOver, (resolveScope_ok_iff.mp named).2.2]

theorem get?_planners_toList (d : Document) (c : Config) (f : FilterSet) (key : String) :
    (⟨planners d c f.toList⟩ : Entries Planner).get? key = (f.get? key).map (planner d c) :=
  get?_planners d c f.toList key

/-- A value that is no combination is planned by its filter alone. -/
theorem outcome_planner {k : FilterKind} (value : FilterValue) (scope : Scope)
    (leaf : k.tier ≠ .logical) :
    (planner d c value k scope).outcome = (k.step d value).outcome := by
  cases value with
  | filterSet g => cases k <;> first | rfl | exact absurd rfl leaf
  | _ => rfl

theorem planNested_eq (d : Document) (c : Config) (g : FilterSet) (outer : Scope) :
    planNested d c g ⟨planners d c g.toList⟩ outer =
      g.resolveScope d c >>= fun found => g.plan d c (found.getD outer) := rfl

theorem planNested_ok_iff {g : FilterSet} {outer : Scope} {p : Plan} :
    (planNested d c g ⟨planners d c g.toList⟩ outer).outcome = .ok p ↔
      (∃ found, (g.resolveScope d c).outcome = .ok found) ∧
      (g.plan d c (g.scopeOver d outer)).outcome = .ok p := by
  rw [planNested_eq, Run.bind_ok_iff]
  constructor
  · rintro ⟨found, named, planned⟩
    exact ⟨⟨found, named⟩, getD_of_resolveScope named ▸ planned⟩
  · rintro ⟨⟨found, named⟩, planned⟩
    exact ⟨found, named, getD_of_resolveScope named ▸ planned⟩

/-- A combination is planned from the set nested under it, and from nothing else. -/
theorem planner_combination_ok_iff {k : FilterKind} {value : FilterValue} {scope : Scope}
    {step : Step} (logical : k.tier = .logical) :
    (planner d c value k scope).outcome = .ok step ↔
      ∃ g p, value = .filterSet g ∧
        (planNested d c g ⟨planners d c g.toList⟩ scope).outcome = .ok p ∧ k.combine p = step := by
  cases k
  case andCollector | orCollector =>
    cases value with
    | filterSet g => simp [planner, Run.map_ok_iff, FilterKind.combine]
    | _ => simp [planner, FilterKind.step, FilterKind.misfit]
  all_goals cases logical

theorem planSteps_cons_ok_iff {scope : Scope} {k : FilterKind} {more : List FilterKind}
    {steps : List (FilterKind × Step)} :
    (planSteps ⟨planners d c f.toList⟩ scope (k :: more)).outcome = .ok steps ↔
      ∃ rest, (planSteps ⟨planners d c f.toList⟩ scope more).outcome = .ok rest ∧
        match f.get? k.name with
        | none => steps = rest
        | some value =>
          ∃ step, (planner d c value k scope).outcome = .ok step ∧ steps = (k, step) :: rest := by
  rw [planSteps, get?_planners_toList]
  cases f.get? k.name with
  | none => simp
  | some value =>
    simp only [Option.map_some, Run.bind_ok_iff, Run.outcome_pure, Except.ok.injEq]
    grind

theorem planSteps_append_ok_iff {scope : Scope} {first last : List FilterKind}
    {steps : List (FilterKind × Step)} :
    (planSteps ⟨planners d c f.toList⟩ scope (first ++ last)).outcome = .ok steps ↔
      ∃ before after, (planSteps ⟨planners d c f.toList⟩ scope first).outcome = .ok before ∧
        (planSteps ⟨planners d c f.toList⟩ scope last).outcome = .ok after ∧
        steps = before ++ after := by
  induction first generalizing steps with
  | nil => simp [planSteps]
  | cons k more ih =>
    simp only [List.cons_append, planSteps_cons_ok_iff, ih]
    cases f.get? k.name <;> grind

/-- The steps are those of the filters that the set names, in the order of planning. -/
theorem planSteps_kinds {scope : Scope} {kinds : List FilterKind} {steps : List (FilterKind × Step)}
    (planned : (planSteps ⟨planners d c f.toList⟩ scope kinds).outcome = .ok steps) :
    steps.map Prod.fst = kinds.filter fun k => (f.get? k.name).isSome := by
  induction kinds generalizing steps with
  | nil =>
    obtain rfl := Except.ok.inj planned
    rfl
  | cons k more ih =>
    obtain ⟨rest, after, here⟩ := planSteps_cons_ok_iff.mp planned
    cases found : f.get? k.name with
    | none =>
      simp only [found] at here
      simpa [here, found] using ih after
    | some value =>
      simp only [found] at here
      obtain ⟨step, _, rfl⟩ := here
      simpa [found] using ih after

/-- Every step is planned from the value under the name of its filter. -/
theorem planner_of_mem {scope : Scope} {kinds : List FilterKind} {steps : List (FilterKind × Step)}
    (planned : (planSteps ⟨planners d c f.toList⟩ scope kinds).outcome = .ok steps)
    {k : FilterKind} {step : Step} (member : (k, step) ∈ steps) :
    ∃ value, f.get? k.name = some value ∧ (planner d c value k scope).outcome = .ok step := by
  induction kinds generalizing steps with
  | nil =>
    obtain rfl := Except.ok.inj planned
    cases member
  | cons first more ih =>
    obtain ⟨rest, after, here⟩ := planSteps_cons_ok_iff.mp planned
    cases found : f.get? first.name with
    | none =>
      simp only [found] at here
      exact ih after (here ▸ member)
    | some value =>
      simp only [found] at here
      obtain ⟨made, single, rfl⟩ := here
      rcases List.mem_cons.mp member with same | later
      · obtain ⟨rfl, rfl⟩ := Prod.mk.inj same
        exact ⟨value, found, single⟩
      · exact ih after later

/-- A plan nested in a step is that of the set nested under its filter. -/
theorem plan_of_nested? {scope : Scope} {k : FilterKind} {value : FilterValue} {step : Step}
    {p : Plan} (planned : (planner d c value k scope).outcome = .ok step)
    (nested : step.nested? = some p) :
    ∃ g : FilterSet, value = .filterSet g ∧
      (g.plan d c (g.scopeOver d scope)).outcome = .ok p := by
  by_cases logical : k.tier = .logical
  · obtain ⟨g, inner, rfl, made, rfl⟩ := (planner_combination_ok_iff logical).mp planned
    have same : inner = p := by cases k <;> exact Option.some.inj nested
    exact ⟨g, rfl, same ▸ (planNested_ok_iff.mp made).2⟩
  · rw [outcome_planner value scope logical] at planned
    rw [FilterKind.nested?_of_step planned] at nested
    cases nested

theorem plan_ok_iff {scope : Scope} {p : Plan} :
    (f.plan d c scope).outcome = .ok p ↔
      ∃ steps, (planSteps ⟨planners d c f.toList⟩ scope FilterKind.byTier).outcome = .ok steps ∧
        .over scope steps = p := by
  simp [plan, Run.map_ok_iff]

theorem planSteps_quiet {planners : Entries Planner} {scope : Scope}
    (quiet : ∀ k planner, planners.get? (FilterKind.name k) = some planner →
      (planner k scope).work = []) (kinds : List FilterKind) :
    (planSteps planners scope kinds).work = [] := by
  induction kinds with
  | nil => rfl
  | cons k more ih =>
    rw [planSteps]
    split
    · next planner found =>
      exact Run.work_bind_eq_nil (quiet k planner found) fun _ _ =>
        Run.work_bind_eq_nil ih fun _ _ => rfl
    · exact ih

/-- Planning pulls no element and makes no test. -/
theorem plan_quiet (d : Document) (c : Config) (f : FilterSet) (scope : Scope) :
    (f.plan d c scope).work = [] := by
  induction f using nested_induction generalizing scope with
  | around f ih =>
    refine Run.work_bind_eq_nil (planSteps_quiet ?_ _) fun _ _ => rfl
    intro k planned found
    rw [get?_planners_toList, Option.map_eq_some_iff] at found
    obtain ⟨value, found, rfl⟩ := found
    cases value with
    | filterSet g =>
      have nested {k : FilterKind} (found : f.get? k.name = some (.filterSet g)) :
          (planNested d c g ⟨planners d c g.toList⟩ scope).work = [] :=
        Run.work_bind_eq_nil (resolveScope_quiet d c g) fun _ _ =>
          ih k g (nested?_eq_some_iff.mpr found) _
      cases k with
      | andCollector | orCollector => exact Run.work_map_eq_nil (nested found)
      | _ => rfl
    | _ => exact FilterKind.step_quiet d k _

end FilterSet

end Sieve
