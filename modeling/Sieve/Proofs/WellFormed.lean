import Sieve.Proofs.Planning

/-!
Sets that can be planned. What is asked of keys, values and scopes is stated of the sets themselves,
wherever in a set they stand; checking and planning together ask for exactly that.
-/

namespace Sieve

namespace FilterSet

inductive Carries : FilterSet → FilterSet → Prop where
  | direct {f g : FilterSet} {key : String} (entry : (key, .filterSet g) ∈ f.toList) : Carries f g
  | within {f g h : FilterSet} {key : String} (entry : (key, .filterSet g) ∈ f.toList)
      (deeper : Carries g h) : Carries f h

def Throughout (holds : FilterSet → Prop) (f : FilterSet) : Prop :=
  holds f ∧ ∀ g, f.Carries g → holds g

theorem Throughout.mono {holds weaker : FilterSet → Prop} {f : FilterSet}
    (all : f.Throughout holds) (implies : ∀ g, holds g → weaker g) : f.Throughout weaker :=
  ⟨implies f all.1, fun g carried => implies g (all.2 g carried)⟩

theorem Throughout.inside {holds : FilterSet → Prop} {f g : FilterSet} {key : String}
    (all : f.Throughout holds) (entry : (key, .filterSet g) ∈ f.toList) : g.Throughout holds :=
  ⟨all.2 g (.direct entry), fun h deeper => all.2 h (.within entry deeper)⟩

theorem Throughout.around {holds : FilterSet → Prop} {f : FilterSet} (here : holds f)
    (inside : ∀ key g, (key, .filterSet g) ∈ f.toList → Throughout holds g) :
    f.Throughout holds := by
  refine ⟨here, fun g carried => ?_⟩
  cases carried with
  | direct entry => exact (inside _ _ entry).1
  | within entry deeper => exact (inside _ _ entry).2 g deeper

def Named (f : FilterSet) : Prop :=
  ∀ key ∈ f.keys, (FilterKind.ofName? key).isSome ∨ (ScopeKey.ofName? key).isSome

/-- Once its scope keys are taken out, the set names only filters, and the sets inside it only
filters and scopes. -/
structure KnownKeys (f : FilterSet) : Prop where
  filters : ∀ key ∈ f.withoutScopes.keys, (FilterKind.ofName? key).isSome
  nested : ∀ g, f.withoutScopes.Carries g → ∀ key ∈ g.keys,
    (FilterKind.ofName? key).isSome ∨ (ScopeKey.ofName? key).isSome

/-- The set names one scope at most, unless the first counts, and the one that counts is proper. -/
structure Scoped (d : Document) (c : Config) (f : FilterSet) : Prop where
  single : c.scopePrecedence ∨ f.scopes.length ≤ 1
  fits : ∀ key value, f.scopes.head? = some (key, value) → key.shape.fits value
  resolves : ∀ key value, f.scopes.head? = some (key, value) → key.shape.resolves d value

structure Proper (d : Document) (f : FilterSet) : Prop where
  fits : ∀ k value, f.get? (FilterKind.name k) = some value → k.shape.fits value
  resolves : ∀ k value, f.get? (FilterKind.name k) = some value → k.shape.resolves d value

structure WellFormed (d : Document) (c : Config) (f : FilterSet) (scope : Scope) : Prop where
  keys : f.KnownKeys
  scopes : ∀ visit ∈ f.visits d scope, visit.1.Scoped d c
  filters : ∀ visit ∈ f.visits d scope, visit.1.Proper d

end FilterSet

namespace Shape

variable {d : Document} {value : FilterValue}

theorem class?_isSome_iff :
    value.class?.isSome ↔ elementClass.fits value ∧ elementClass.resolves d value := by
  cases value <;> simp [fits, resolves, FilterValue.class?, FilterValue.classRef?]

theorem category?_isSome_iff :
    (value.category? d).isSome ↔ category.fits value ∧ category.resolves d value := by
  cases value <;> simp [fits, resolves, FilterValue.category?]

theorem target?_isSome_iff :
    (value.target? d).isSome ↔ element.fits value ∧ element.resolves d value := by
  cases value <;> simp [fits, resolves, FilterValue.target?, FilterValue.elementRef?]

theorem targets?_isSome_iff :
    (value.targets? d).isSome ↔ elements.fits value ∧ elements.resolves d value := by
  cases value <;>
    simp [fits, resolves, FilterValue.targets?, FilterValue.elementRefs?, FilterValue.elementRef?]

end Shape

theorem ScopeKey.scope?_isSome_iff {d : Document} {key : ScopeKey} {value : FilterValue} :
    (key.scope? d value).isSome ↔ key.shape.fits value ∧ key.shape.resolves d value := by
  cases key with
  | view => rw [scope?, Option.isSome_map, Shape.target?_isSome_iff, shape]
  | elements | elementIds => rw [scope?, Option.isSome_map, Shape.targets?_isSome_iff, shape]

/-- A filter that is no combination takes exactly the values of its shape whose references name
something. -/
theorem FilterKind.step_succeeds_iff {d : Document} {k : FilterKind} {value : FilterValue}
    (leaf : k.tier ≠ .logical) :
    (∃ step, (k.step d value).outcome = .ok step) ↔
      k.shape.fits value ∧ k.shape.resolves d value := by
  cases k with
  | ofClass =>
    rw [shape, ← Shape.class?_isSome_iff, Option.isSome_iff_exists]
    simp [FilterKind.step, Run.map_succeeds_iff, resolveClass_ok_iff]
  | ofCategory =>
    rw [shape, ← Shape.category?_isSome_iff, Option.isSome_iff_exists]
    simp [FilterKind.step, Run.map_succeeds_iff, resolveCategory_ok_iff]
  | isType | isNotType | isViewIndependent | isCurveDriven =>
    cases value <;> simp [FilterKind.step, flag, misfit, shape, Shape.fits, Shape.resolves]
  | family | ownerView | symbol | level | notLevel =>
    rw [shape, ← Shape.target?_isSome_iff, Option.isSome_iff_exists]
    simp [FilterKind.step, Run.map_succeeds_iff, element_ok_iff]
  | parameterFilter | whereTest =>
    cases value <;> simp [FilterKind.step, misfit, shape, Shape.fits, Shape.resolves]
  | exclude =>
    rw [shape, ← Shape.targets?_isSome_iff, Option.isSome_iff_exists, FilterKind.step,
      FilterValue.targets?]
    cases value.elementRefs? <;>
      simp [Run.map_succeeds_iff, misfit, ElementRef.outcome_resolveAll, mapError_eq_ok_iff,
        toOption_eq_some_iff]
  | andCollector | orCollector => exact absurd rfl leaf

namespace FilterSet

variable {d : Document} {c : Config} {f : FilterSet} {scope : Scope}

theorem scoped_iff : (∃ found, (f.resolveScope d c).outcome = .ok found) ↔ f.Scoped d c := by
  simp only [resolveScope_ok_iff, exists_and_left, exists_eq', and_true]
  constructor
  · rintro ⟨single, selected⟩
    refine ⟨single, fun key value given => ?_, fun key value given => ?_⟩
    · exact (ScopeKey.scope?_isSome_iff.mp (selected _ given)).1
    · exact (ScopeKey.scope?_isSome_iff.mp (selected _ given)).2
  · rintro ⟨single, fits, resolves⟩
    exact ⟨single, fun ⟨key, value⟩ given =>
      ScopeKey.scope?_isSome_iff.mpr ⟨fits key value given, resolves key value given⟩⟩

theorem checkKey_false_ok_iff {key : String} :
    checkKey false key = .ok () ↔ (FilterKind.ofName? key).isSome := by
  rw [checkKey]
  cases filter : FilterKind.ofName? key with
  | none => split <;> simp
  | some k =>
    have same : k.name = key := by simpa using List.find?_some filter
    simp [← same, ScopeKey.ofName?_filter_name]

theorem checkKey_true_ok_iff {key : String} :
    checkKey true key = .ok () ↔
      (FilterKind.ofName? key).isSome ∨ (ScopeKey.ofName? key).isSome := by
  rw [checkKey]
  cases FilterKind.ofName? key <;> cases ScopeKey.ofName? key <;> simp

theorem checkEntries_ok_iff {nested : Bool} {entries : List (String × FilterValue)} :
    checkEntries nested entries = .ok () ↔
      ∀ entry ∈ entries, checkKey nested entry.1 = .ok () ∧ checkValue entry.2 = .ok () := by
  induction entries with
  | nil => simp [checkEntries]
  | cons entry rest ih =>
    obtain ⟨key, value⟩ := entry
    rw [checkEntries, List.forall_mem_cons, ← ih]
    cases checkKey nested key <;> cases checkValue value <;> simp [bind, Except.bind]

theorem mem_keys_iff {key : String} : key ∈ f.keys ↔ ∃ value, (key, value) ∈ f.toList := by
  simp [Entries.keys]

/-- Keys are checked in the set and in all sets that it carries. -/
theorem check_ok_iff (nested : Bool) (f : FilterSet) :
    checkEntries nested f.toList = .ok () ↔
      (∀ key ∈ f.keys, checkKey nested key = .ok ()) ∧
      ∀ g, f.Carries g → ∀ key ∈ g.keys, checkKey true key = .ok () := by
  induction f using carried_induction generalizing nested with
  | around f ih =>
    rw [checkEntries_ok_iff]
    constructor
    · intro checked
      refine ⟨fun key member => ?_, fun g carried => ?_⟩
      · obtain ⟨value, entry⟩ := mem_keys_iff.mp member
        exact (checked _ entry).1
      · -- The value of the entry was checked as a nested set.
        cases carried with
        | direct entry => exact ((ih _ _ entry true).mp (checked _ entry).2).1
        | within entry deeper => exact ((ih _ _ entry true).mp (checked _ entry).2).2 g deeper
    · rintro ⟨here, inside⟩ ⟨key, value⟩ entry
      refine ⟨here key (mem_keys_iff.mpr ⟨value, entry⟩), ?_⟩
      cases value with
      | filterSet g =>
        exact (ih key g entry true).mpr
          ⟨inside g (.direct entry), fun h deeper => inside h (.within entry deeper)⟩
      | _ => rfl

theorem validate_withoutScopes_ok_iff : f.withoutScopes.validate = .ok () ↔ f.KnownKeys := by
  rw [validate, check_ok_iff]
  simp only [checkKey_false_ok_iff, checkKey_true_ok_iff]
  exact ⟨fun ⟨filters, nested⟩ => ⟨filters, nested⟩, fun ⟨filters, nested⟩ => ⟨filters, nested⟩⟩

theorem planSteps_succeeds_iff {kinds : List FilterKind} :
    (∃ steps, (planSteps ⟨planners d c f.toList⟩ scope kinds).outcome = .ok steps) ↔
      ∀ k ∈ kinds, ∀ value, f.get? k.name = some value →
        ∃ step, (planner d c value k scope).outcome = .ok step := by
  induction kinds with
  | nil => simp [planSteps]
  | cons k more ih =>
    rw [List.forall_mem_cons, ← ih]
    simp only [planSteps_cons_ok_iff]
    cases f.get? k.name with
    | none => simp
    | some value => simp only [Option.some.injEq, forall_eq']; grind

theorem plan_succeeds_iff :
    (∃ p, (f.plan d c scope).outcome = .ok p) ↔
      ∀ k value, f.get? (FilterKind.name k) = some value →
        ∃ step, (planner d c value k scope).outcome = .ok step := by
  have steps : (∃ p, (f.plan d c scope).outcome = .ok p) ↔
      ∃ steps, (planSteps ⟨planners d c f.toList⟩ scope FilterKind.byTier).outcome = .ok steps := by
    simp [plan_ok_iff]
  rw [steps, planSteps_succeeds_iff]
  simp only [FilterKind.mem_byTier, true_implies]

theorem planner_combination_succeeds_iff {k : FilterKind} {value : FilterValue}
    (logical : k.tier = .logical) :
    (∃ step, (planner d c value k scope).outcome = .ok step) ↔
      ∃ g : FilterSet, value = .filterSet g ∧ g.Scoped d c ∧
        ∃ p, (g.plan d c (g.scopeOver d scope)).outcome = .ok p := by
  simp only [planner_combination_ok_iff logical, planNested_ok_iff, scoped_iff]
  grind

/-- A filter can be planned if its value is in order and what is nested under it can be planned. -/
theorem planner_succeeds_iff {k : FilterKind} {value : FilterValue} :
    (∃ step, (planner d c value k scope).outcome = .ok step) ↔
      (k.shape.fits value ∧ k.shape.resolves d value) ∧
      ∀ g : FilterSet, k.tier = .logical → value = .filterSet g →
        g.Scoped d c ∧ ∃ p, (g.plan d c (g.scopeOver d scope)).outcome = .ok p := by
  by_cases logical : k.tier = .logical
  · have takesSet : (k.shape.fits value ∧ k.shape.resolves d value) ↔
        ∃ g, value = .filterSet g := by
      cases k <;> cases logical <;>
        cases value <;> simp [FilterKind.shape, Shape.fits, Shape.resolves]
    rw [planner_combination_succeeds_iff logical, takesSet]
    constructor
    · rintro ⟨g, rfl, planned⟩
      refine ⟨⟨g, rfl⟩, fun other _ same => ?_⟩
      obtain rfl := FilterValue.filterSet.inj same
      exact planned
    · rintro ⟨⟨g, rfl⟩, planned⟩
      exact ⟨g, rfl, planned g logical rfl⟩
  · simp only [outcome_planner value scope logical, FilterKind.step_succeeds_iff logical]
    exact ⟨fun proper => ⟨proper, fun _ nested => absurd nested logical⟩, And.left⟩

theorem forall_visits_iff {holds : FilterSet × Scope → Prop} :
    (∀ visit ∈ f.visits d scope, holds visit) ↔
      holds (f, scope) ∧ ∀ k g, FilterKind.tier k = .logical → f.nested? k = some g →
        ∀ visit ∈ g.visits d (g.scopeOver d scope), holds visit := by
  have logical : ∀ k, FilterKind.tier k = .logical → k = .andCollector ∨ k = .orCollector := by
    intro k; cases k <;> decide
  rw [visits_eq, List.forall_mem_cons, List.forall_mem_append]
  simp only [nestedVisits]
  refine and_congr_right fun _ => ⟨?_, ?_⟩
  · rintro ⟨ands, ors⟩ k g tier nested
    rcases logical k tier with rfl | rfl
    · simpa [nested] using ands
    · simpa [nested] using ors
  · intro all
    constructor
    · cases nested : f.nested? .andCollector with
      | none => simp
      | some g => exact all _ g rfl nested
    · cases nested : f.nested? .orCollector with
      | none => simp
      | some g => exact all _ g rfl nested

theorem plan_succeeds_iff_nested :
    (∃ p, (f.plan d c scope).outcome = .ok p) ↔
      f.Proper d ∧ ∀ k g, FilterKind.tier k = .logical → f.nested? k = some g →
        ∀ visit ∈ g.visits d (g.scopeOver d scope), visit.1.Scoped d c ∧ visit.1.Proper d := by
  induction f using nested_induction generalizing scope with
  | around f ih =>
    have inside (k : FilterKind) (g : FilterSet) (nested : f.nested? k = some g) :
        (g.Scoped d c ∧ ∃ p, (g.plan d c (g.scopeOver d scope)).outcome = .ok p) ↔
          ∀ visit ∈ g.visits d (g.scopeOver d scope), visit.1.Scoped d c ∧ visit.1.Proper d := by
      rw [ih k g nested, forall_visits_iff, and_assoc]
    rw [plan_succeeds_iff]
    simp only [planner_succeeds_iff]
    constructor
    · intro planned
      refine ⟨⟨fun k value found => (planned k value found).1.1,
        fun k value found => (planned k value found).1.2⟩, fun k g logical nested => ?_⟩
      have found := nested?_eq_some_iff.mp nested
      exact (inside k g nested).mp ((planned k _ found).2 g logical rfl)
    · rintro ⟨⟨fits, resolves⟩, deeper⟩ k value found
      refine ⟨⟨fits k value found, resolves k value found⟩, ?_⟩
      rintro g logical rfl
      have nested := nested?_eq_some_iff.mpr found
      exact (inside k g nested).mpr (deeper k g logical nested)

theorem proper_withoutScopes : f.withoutScopes.Proper d ↔ f.Proper d := by
  constructor
  · rintro ⟨fits, resolves⟩
    simp only [get?_withoutScopes] at fits resolves
    exact ⟨fits, resolves⟩
  · rintro ⟨fits, resolves⟩
    refine ⟨?_, ?_⟩ <;> simpa only [get?_withoutScopes]

/-- A query resolves the scope of its set, and checks and plans the set without it. -/
theorem planned_withoutScopes_iff :
    (f.Scoped d c ∧ f.withoutScopes.validate = .ok () ∧
      ∃ p, (f.withoutScopes.plan d c scope).outcome = .ok p) ↔ f.WellFormed d c scope := by
  rw [validate_withoutScopes_ok_iff, plan_succeeds_iff_nested, proper_withoutScopes]
  simp only [nested?_withoutScopes]
  constructor
  · rintro ⟨ownScope, keys, proper, inside⟩
    have all := forall_visits_iff.mpr ⟨⟨ownScope, proper⟩, inside⟩
    exact ⟨keys, fun visit member => (all visit member).1, fun visit member => (all visit member).2⟩
  · rintro ⟨keys, scopes, filters⟩
    have all : ∀ visit ∈ f.visits d scope, visit.1.Scoped d c ∧ visit.1.Proper d :=
      fun visit member => ⟨scopes visit member, filters visit member⟩
    obtain ⟨⟨ownScope, proper⟩, inside⟩ := forall_visits_iff.mp all
    exact ⟨ownScope, keys, proper, inside⟩

theorem withoutScopes_of_scopes (free : f.scopes = []) : f.withoutScopes = f := by
  have absent : ∀ entry ∈ f.toList, ∀ key : ScopeKey, entry.1 ≠ key.name := by
    intro entry member key same
    have missing : f.get? key.name = none := by
      have filtered := List.filterMap_eq_nil_iff.mp free key (ScopeKey.mem_all key)
      simpa using filtered
    simp only [Entries.get?, Option.map_eq_none_iff, List.find?_eq_none] at missing
    exact missing entry member (by simpa using same)
  have unchanged (key : ScopeKey) : f.erase key.name = f := by
    rw [Entries.erase, List.filter_eq_self.mpr]
    intro entry member
    simpa using absent entry member key
  simp only [withoutScopes, ScopeKey.all, List.foldl_cons, List.foldl_nil, unchanged]

theorem scopes_of_validate (valid : f.validate = .ok ()) : f.scopes = [] := by
  refine List.filterMap_eq_nil_iff.mpr fun key _ => ?_
  cases given : f.get? key.name with
  | none => rfl
  | some value =>
    have known := ((check_ok_iff false f).mp valid).1 key.name
      (mem_keys_iff.mpr ⟨value, mem_of_get? given⟩)
    simp [checkKey, ScopeKey.ofName?_name] at known

/-- Over a given scope a set is planned if it names no scope itself and is otherwise in order. -/
theorem planned_iff :
    (f.validate = .ok () ∧ ∃ p, (f.plan d c scope).outcome = .ok p) ↔
      f.scopes = [] ∧ f.WellFormed d c scope := by
  rw [← planned_withoutScopes_iff]
  constructor
  · rintro ⟨valid, planned⟩
    have free := scopes_of_validate valid
    refine ⟨free, ⟨by simp [free], by simp [free], by simp [free]⟩, ?_⟩
    rw [withoutScopes_of_scopes free]
    exact ⟨valid, planned⟩
  · rintro ⟨free, _, planned⟩
    rwa [withoutScopes_of_scopes free] at planned

end FilterSet

end Sieve
