import Sieve.Proofs.Query

/-!
As what queries fail. A set whose keys are known and whose values have the shapes of their filters
can still name too many scopes, a reference that names nothing, or a scope that the document does
not open; it fails as nothing else, at any depth.
-/

namespace Sieve

/-- Failures of a set against its document and among its scopes, none of the form of its values. -/
inductive QueryError.Contextual : QueryError → Prop where
  | ambiguousScope {keys : List String} : QueryError.Contextual (.ambiguousScope keys)
  | reference {cause : ReferenceError} : QueryError.Contextual (.reference cause)
  | document {cause : DocumentError} : QueryError.Contextual (.document cause)

namespace Run

variable {α β : Type} {sort : QueryError → Prop}

def FailsOnly (sort : QueryError → Prop) (x : Run α) : Prop :=
  ∀ e, x.outcome = .error e → sort e

namespace FailsOnly

theorem mono {x : Run α} {wider : QueryError → Prop} (fails : x.FailsOnly sort)
    (within : ∀ e, sort e → wider e) : x.FailsOnly wider :=
  fun e failed => within e (fails e failed)

theorem of_ok {x : Run α} {a : α} (ended : x.outcome = .ok a) : x.FailsOnly sort := by
  intro e failed
  rw [ended] at failed
  cases failed

theorem bind {x : Run α} {f : α → Run β} (first : x.FailsOnly sort)
    (rest : ∀ a, x.outcome = .ok a → (f a).FailsOnly sort) : (x >>= f).FailsOnly sort := by
  intro e failed
  rw [outcome_bind] at failed
  cases ended : x.outcome with
  | error e' =>
    rw [ended] at failed
    obtain rfl := Except.error.inj failed
    exact first e' ended
  | ok a =>
    rw [ended] at failed
    exact rest a ended e failed

theorem map {f : α → β} {x : Run α} (fails : x.FailsOnly sort) : (f <$> x).FailsOnly sort := by
  rw [map_eq_pure_bind]
  exact fails.bind fun _ _ => of_ok rfl

theorem of_reference {x : Run α} (y : Except ReferenceError α)
    (same : x.outcome = y.mapError .reference) : x.FailsOnly QueryError.Contextual := by
  intro e failed
  rw [same] at failed
  cases y with
  | ok a => cases failed
  | error cause =>
    obtain rfl := Except.error.inj failed
    exact .reference

end FailsOnly

end Run

namespace ElementRef

theorem resolve_fails (d : Document) (r : ElementRef) :
    (r.resolve d).FailsOnly QueryError.Contextual :=
  .of_reference _ (outcome_resolve d r)

theorem resolveAll_fails (d : Document) (refs : List ElementRef) :
    (resolveAll d refs).FailsOnly QueryError.Contextual :=
  .of_reference _ (outcome_resolveAll d refs)

end ElementRef

namespace Shape

variable {value : FilterValue}

theorem elementClass_fits_iff : elementClass.fits value ↔ ∃ c, value.classRef? = some c := by
  cases value <;> simp [fits, FilterValue.classRef?]

theorem element_fits_iff : element.fits value ↔ ∃ r, value.elementRef? = some r := by
  cases value <;> simp [fits, FilterValue.elementRef?]

theorem elements_fits_iff : elements.fits value ↔ ∃ refs, value.elementRefs? = some refs := by
  cases value <;> simp [fits, FilterValue.elementRefs?, FilterValue.elementRef?]

theorem filterSet_fits_iff : filterSet.fits value ↔ ∃ g, value = .filterSet g := by
  cases value <;> simp [fits]

end Shape

theorem ScopeKey.select_fails {d : Document} {key : ScopeKey} {value : FilterValue}
    (fits : key.shape.fits value) : (key.select d value).FailsOnly QueryError.Contextual := by
  cases key with
  | view =>
    obtain ⟨r, given⟩ := Shape.element_fits_iff.mp fits
    simp only [select, given]
    exact (ElementRef.resolve_fails d r).map
  | elements | elementIds =>
    obtain ⟨refs, given⟩ := Shape.elements_fits_iff.mp fits
    simp only [select, given]
    exact (ElementRef.resolveAll_fails d refs).map

theorem Config.chooseScope_fails (c : Config) (given : List (ScopeKey × FilterValue)) :
    (Run.ofExcept (c.chooseScope given)).FailsOnly QueryError.Contextual := by
  intro e failed
  rcases given with _ | ⟨first, _ | ⟨second, more⟩⟩
  · cases failed
  · cases failed
  · rw [Run.outcome_ofExcept] at failed
    cases precedence : c.scopePrecedence with
    | true => simp [chooseScope, precedence] at failed
    | false =>
      simp only [chooseScope, precedence, Bool.false_eq_true, if_false] at failed
      obtain rfl := Except.error.inj failed
      exact .ambiguousScope

namespace FilterKind

variable {d : Document} {k : FilterKind} {value : FilterValue}

theorem flag_fails {negated : Bool} (fits : Shape.flag.fits value) :
    (k.flag negated value).FailsOnly QueryError.Contextual := by
  cases value with
  | flag b => exact .of_ok rfl
  | _ => cases fits

theorem resolveClass_fails (fits : Shape.elementClass.fits value) :
    (k.resolveClass value).FailsOnly QueryError.Contextual := by
  obtain ⟨ref, given⟩ := Shape.elementClass_fits_iff.mp fits
  simp only [resolveClass, given]
  exact .of_reference ref.resolve rfl

theorem element_fails (fits : Shape.element.fits value) :
    (k.element d value).FailsOnly QueryError.Contextual := by
  obtain ⟨r, given⟩ := Shape.element_fits_iff.mp fits
  simp only [element, given]
  exact ElementRef.resolve_fails d r

theorem sampleCategory_fails (d : Document) (r : ElementRef) :
    (sampleCategory d r).FailsOnly QueryError.Contextual := by
  refine (ElementRef.resolve_fails d r).bind fun id _ => ?_
  split
  · exact .of_ok rfl
  · intro e failed
    obtain rfl := Except.error.inj failed
    exact .reference

theorem resolveCategory_fails (fits : Shape.category.fits value) :
    (k.resolveCategory d value).FailsOnly QueryError.Contextual := by
  cases value with
  | element r =>
    exact (sampleCategory_fails d r).bind fun ref _ => .of_reference ref.resolve rfl
  | category ref => exact .of_reference ref.resolve (by simp [resolveCategory])
  | text s => exact .of_reference (CategoryRef.name s).resolve (by simp [resolveCategory])
  | number n => exact .of_reference (CategoryRef.number n).resolve (by simp [resolveCategory])
  | _ => cases fits

theorem shape_of_logical (logical : k.tier = .logical) : k.shape = .filterSet := by
  cases k <;> first | rfl | cases logical

/-- With a value of its shape, a filter that is no combination fails on references alone. -/
theorem step_fails (leaf : k.tier ≠ .logical) (fits : k.shape.fits value) :
    (k.step d value).FailsOnly QueryError.Contextual := by
  have last {α β : Type} {x : Run α} {f : α → β} (fails : x.FailsOnly QueryError.Contextual) :
      (x >>= fun a => pure (f a)).FailsOnly QueryError.Contextual :=
    fails.bind fun _ _ => .of_ok rfl
  cases k with
  | ofClass => exact last (resolveClass_fails fits)
  | ofCategory => exact last (resolveCategory_fails fits)
  | isType | isNotType | isViewIndependent | isCurveDriven => exact last (flag_fails fits)
  | family | ownerView | symbol | level | notLevel => exact last (element_fails fits)
  | parameterFilter =>
    cases value with
    | parameter p => exact .of_ok rfl
    | _ => cases fits
  | whereTest =>
    cases value with
    | test t => exact .of_ok rfl
    | _ => cases fits
  | exclude =>
    obtain ⟨refs, given⟩ := Shape.elements_fits_iff.mp fits
    simp only [step, given]
    exact last (ElementRef.resolveAll_fails d refs)
  | andCollector | orCollector => exact absurd rfl leaf

end FilterKind

def QueryError.OfDocument (e : QueryError) : Prop := ∃ cause, e = .document cause

namespace Selection

variable {d : Document} {s other : Selection} {e : QueryError}

theorem ofScope_fails {scope : Scope} (failed : ofScope d scope = .error e) : e.OfDocument := by
  rw [ofScope] at failed
  split at failed
  · cases failed
  · next cause _ => exact ⟨cause, (Except.error.inj failed).symm⟩

/-- Combining, whatever comes of it, fails only as the check for one document does. -/
theorem combine_fails {make : Unit → Selection}
    (failed : (s.sameDocument other >>= fun same => pure (make same)) = .error e) :
    e.OfDocument := by
  rw [sameDocument] at failed
  split at failed
  · cases failed
  · exact ⟨_, (Except.error.inj failed).symm⟩

theorem keepPassing_fails (s : Selection) (t : ElementTest) :
    (s.keepPassing t).FailsOnly QueryError.OfDocument := by
  have lifted {α : Type} (x : Logged α) :
      (liftM x : Run α).FailsOnly QueryError.OfDocument := .of_ok rfl
  refine (lifted s.elements).bind fun traversal _ => ?_
  refine (lifted (failures traversal.document t traversal.remaining)).bind fun failing _ => ?_
  split <;> exact .of_ok rfl

end Selection

mutual

/-- A plan that was made fails only where the document turns a call down. -/
theorem Plan.run_fails (d : Document) : (p : Plan) → (p.run d).FailsOnly QueryError.OfDocument
  | .over scope steps => by
    rw [Plan.run]
    exact Run.FailsOnly.bind (fun _ failed => Selection.ofScope_fails failed)
      fun s _ => runSteps_fails d steps s

theorem runSteps_fails (d : Document) : (steps : List (FilterKind × Step)) → (s : Selection) →
    (runSteps d steps s).FailsOnly QueryError.OfDocument
  | [], s => by
    rw [runSteps]
    exact .of_ok rfl
  | (_, step) :: rest, s => by
    rw [runSteps]
    exact (Step.run_fails d step s).bind fun narrowed _ => runSteps_fails d rest narrowed

theorem Step.run_fails (d : Document) : (step : Step) → (s : Selection) →
    (step.run d s).FailsOnly QueryError.OfDocument
  | .keep c, s => by
    rw [Step.run]
    exact .of_ok rfl
  | .test t, s => by
    rw [Step.run]
    exact s.keepPassing_fails t
  | .exclude ids, s => by
    rw [Step.run]
    split <;> exact .of_ok rfl
  | .intersect nested, s => by
    rw [Step.run]
    exact (Plan.run_fails d nested).bind fun other _ _ failed => Selection.combine_fails failed
  | .union nested, s => by
    rw [Step.run]
    exact (Plan.run_fails d nested).bind fun other _ _ failed => Selection.combine_fails failed

end

namespace FilterSet

variable {d : Document} {c : Config} {f : FilterSet} {scope : Scope}

structure Fits (f : FilterSet) : Prop where
  filters : ∀ k value, f.get? (FilterKind.name k) = some value → k.shape.fits value
  scopes : ∀ k value, f.get? (ScopeKey.name k) = some value → k.shape.fits value

theorem get?_of_mem_scopes {given : ScopeKey × FilterValue} (member : given ∈ f.scopes) :
    f.get? given.1.name = some given.2 := by
  obtain ⟨k, _, named⟩ := List.mem_filterMap.mp member
  obtain ⟨value, found, rfl⟩ := Option.map_eq_some_iff.mp named
  exact found

theorem resolveScope_fails (fits : f.Fits) :
    (f.resolveScope d c).FailsOnly QueryError.Contextual := by
  refine (c.chooseScope_fails f.scopes).bind fun chosen ended => ?_
  split
  · next key value =>
    have first := (Config.chooseScope_ok_iff.mp ended).2
    have found := get?_of_mem_scopes (List.mem_of_head? first)
    exact (ScopeKey.select_fails (fits.scopes key value found)).map
  · exact .of_ok rfl

theorem planSteps_fails {planners : Entries Planner} {sort : QueryError → Prop}
    (each : ∀ k planner, planners.get? (FilterKind.name k) = some planner →
      (planner k scope).FailsOnly sort) (kinds : List FilterKind) :
    (planSteps planners scope kinds).FailsOnly sort := by
  induction kinds with
  | nil => exact .of_ok rfl
  | cons k more ih =>
    rw [planSteps]
    split
    · next planner found =>
      exact (each k planner found).bind fun _ _ => ih.bind fun _ _ => .of_ok rfl
    · exact ih

/-- Planning a set of fitting values, those in the sets nested in it included. -/
theorem plan_fails (filters : ∀ k value, f.get? (FilterKind.name k) = some value → k.shape.fits value)
    (nested : ∀ k g, f.nested? k = some g → g.Throughout Fits) :
    (f.plan d c scope).FailsOnly QueryError.Contextual := by
  induction f using nested_induction generalizing scope with
  | around f ih =>
    refine (planSteps_fails ?_ _).bind fun _ _ => .of_ok rfl
    intro k planned found
    rw [get?_planners_toList, Option.map_eq_some_iff] at found
    obtain ⟨value, found, rfl⟩ := found
    by_cases logical : k.tier = .logical
    · obtain ⟨g, rfl⟩ := Shape.filterSet_fits_iff.mp
        (FilterKind.shape_of_logical logical ▸ filters k value found)
      have below := nested?_eq_some_iff.mpr found
      have inside := nested k g below
      have planned : (planNested d c g ⟨planners d c g.toList⟩ scope).FailsOnly
          QueryError.Contextual := by
        refine (resolveScope_fails inside.1).bind fun own _ => ?_
        refine ih k g below inside.1.filters fun k h deeper => ?_
        exact inside.inside (mem_of_get? (nested?_eq_some_iff.mp deeper))
      cases k with
      | andCollector | orCollector => exact planned.map
      | _ => cases logical
    · intro e failed
      rw [outcome_planner value scope logical] at failed
      exact FilterKind.step_fails logical (filters k value found) e failed

theorem mem_withoutScopes {entry : String × FilterValue} :
    entry ∈ f.withoutScopes.toList ↔ entry ∈ f.toList ∧ ∀ k, entry.1 ≠ ScopeKey.name k := by
  have each : (∀ k, entry.1 ≠ ScopeKey.name k) ↔ ∀ k ∈ ScopeKey.all, entry.1 ≠ k.name :=
    ⟨fun apart k _ => apart k, fun apart k => apart k k.mem_all⟩
  rw [each]
  simp only [withoutScopes, ScopeKey.all, Entries.erase, List.foldl_cons, List.foldl_nil,
    List.mem_filter, decide_eq_true_eq, List.forall_mem_cons]
  grind

theorem Carries.of_withoutScopes {g : FilterSet} (carried : f.withoutScopes.Carries g) :
    f.Carries g := by
  cases carried with
  | direct entry => exact .direct (mem_withoutScopes.mp entry).1
  | within entry deeper => exact .within (mem_withoutScopes.mp entry).1 deeper

theorem KnownKeys.of_named (named : f.Throughout Named) : f.KnownKeys where
  filters key member := by
    obtain ⟨value, entry⟩ := mem_keys_iff.mp member
    obtain ⟨entry, noScope⟩ := mem_withoutScopes.mp entry
    rcases named.1 key (mem_keys_iff.mpr ⟨value, entry⟩) with filter | scope
    · exact filter
    · obtain ⟨k, found⟩ := Option.isSome_iff_exists.mp scope
      have same : k.name = key := by simpa using List.find?_some found
      exact absurd same.symm (noScope k)
  nested g carried := named.2 g carried.of_withoutScopes

theorem collect_fails (valid : f.validate = .ok ())
    (filters : ∀ k value, f.get? (FilterKind.name k) = some value → k.shape.fits value)
    (nested : ∀ k g, f.nested? k = some g → g.Throughout Fits) :
    (f.collect d c scope).FailsOnly QueryError.Contextual := by
  have checked : (Run.ofExcept f.validate).FailsOnly QueryError.Contextual := .of_ok valid
  refine checked.bind fun _ _ => (plan_fails filters nested).bind fun p _ => ?_
  refine (p.run_fails d).mono ?_
  rintro e ⟨cause, rfl⟩
  exact .document

end FilterSet

namespace Matches

/-- A query of a set with known keys and fitting values. -/
theorem ofFilters_fails (d : Document) (c : Config) {f : FilterSet} (keys : f.KnownKeys)
    (fits : f.Throughout FilterSet.Fits) :
    (ofFilters d c f).FailsOnly QueryError.Contextual := by
  rw [ofFilters_eq]
  refine (FilterSet.resolveScope_fails fits.1).bind fun found _ => ?_
  have collected : (f.withoutScopes.collect d c (found.getD .document)).FailsOnly
      QueryError.Contextual := by
    refine FilterSet.collect_fails (FilterSet.validate_withoutScopes_ok_iff.mpr keys) ?_ ?_
    · simpa only [FilterSet.get?_withoutScopes] using fits.1.filters
    · intro k g nested
      rw [FilterSet.nested?_withoutScopes] at nested
      exact fits.inside (FilterSet.mem_of_get? (FilterSet.nested?_eq_some_iff.mp nested))
  exact collected.bind fun _ _ => .of_ok rfl

end Matches

end Sieve
