import Sieve.Filter.Collect
import Sieve.Proofs.Selection

/-!
What a filter set asks for, said of the set itself and not of its plan: the elements that it selects
over a scope, the sets nested in it with the scopes they run over, and the tests that it makes.
-/

namespace Sieve

namespace FilterValue

def flag? : FilterValue → Option Bool
  | flag b => some b
  | _ => none

def parameter? : FilterValue → Option ParameterPredicate
  | parameter p => some p
  | _ => none

def test? : FilterValue → Option ElementTest
  | test t => some t
  | _ => none

def filterSet? : FilterValue → Option FilterSet
  | filterSet set => some set
  | _ => none

def class? (value : FilterValue) : Option ElementClass :=
  value.classRef?.bind fun ref => ref.resolve.toOption

/-- The category that a value stands for; of an element, the one that it has in the document. -/
def category? (d : Document) : FilterValue → Option Category
  | category ref => ref.resolve.toOption
  | text s => (CategoryRef.name s).resolve.toOption
  | number n => (CategoryRef.number n).resolve.toOption
  | element ref => (ref.target d).toOption.bind fun id => (d.element? id).bind Element.category
  | _ => none

def target? (d : Document) (value : FilterValue) : Option ElementId :=
  value.elementRef?.bind fun ref => (ref.target d).toOption

def targets? (d : Document) (value : FilterValue) : Option (List ElementId) :=
  value.elementRefs?.bind fun refs => (ElementRef.targets d refs).toOption

end FilterValue

def FilterKind.holds (d : Document) (k : FilterKind) (value : FilterValue) (e : Element) : Bool :=
  match k with
  | ofClass => value.class?.any fun c => e.elementClass == c
  | ofCategory => (value.category? d).any fun c => e.category == some c
  | isType => value.flag?.any fun b => e.isType == b
  | isNotType => value.flag?.any fun b => e.isType != b
  | family =>
    e.elementClass == .familySymbol && (value.target? d).any fun id => e.familyId == some id
  | ownerView => (value.target? d).any fun id => e.ownerView == some id
  | isViewIndependent => value.flag?.any fun b => e.ownerView.isNone == b
  | isCurveDriven => value.flag?.any fun b => e.curveDriven == b
  | symbol =>
    e.elementClass == .familyInstance && (value.target? d).any fun id => e.typeId == some id
  | level => (value.target? d).any fun id => e.level == some id
  | notLevel => (value.target? d).any fun id => e.level != some id
  | parameterFilter => value.parameter?.any fun p => p.passes e
  | whereTest => value.test?.any fun t => t e
  | exclude => (value.targets? d).any fun ids => !ids.contains e.id
  | andCollector | orCollector => true

def Shape.fits : Shape → FilterValue → Bool
  | flag, .flag _ => true
  | elementClass, .elementClass _ | elementClass, .text _ => true
  | category, .category _ | category, .text _ | category, .number _ | category, .element _ => true
  | element, .element _ | element, .number _ => true
  | elements, .elements _ | elements, .element _ | elements, .number _ => true
  | parameter, .parameter _ => true
  | test, .test _ => true
  | filterSet, .filterSet _ => true
  | _, _ => false

def Shape.resolves (d : Document) : Shape → FilterValue → Bool
  | elementClass, value => value.class?.isSome
  | category, value => (value.category? d).isSome
  | element, value => (value.target? d).isSome
  | elements, value => (value.targets? d).isSome
  | flag, _ | parameter, _ | test, _ | filterSet, _ => true

/-- The filters that need no test by the caller: those of the first three tiers. -/
def FilterKind.native : List FilterKind :=
  all.filter fun k => k.tier.rank < Tier.superSlow.rank

def ScopeKey.scope? (d : Document) (key : ScopeKey) (value : FilterValue) : Option Scope :=
  match key with
  | view => (value.target? d).map .view
  | elements | elementIds => (value.targets? d).map .elements

abbrev Visits := List (FilterSet × Scope)

namespace FilterSet

/-- The scope of a set inside another scope: its own if it names one. -/
def scopeOver (d : Document) (f : FilterSet) (outer : Scope) : Scope :=
  (f.scopes.head?.bind fun given => given.1.scope? d given.2).getD outer

def nested? (f : FilterSet) (k : FilterKind) : Option FilterSet :=
  (f.get? k.name).bind FilterValue.filterSet?

def test? (f : FilterSet) : Option ElementTest :=
  (f.get? FilterKind.whereTest.name).bind FilterValue.test?

def meets (d : Document) (f : FilterSet) (kinds : List FilterKind) (e : Element) : Bool :=
  kinds.all fun k => (f.get? k.name).all fun value => k.holds d value e

theorem sizeOf_lt_of_mem {entries : List (String × FilterValue)} {key : String} {g : FilterSet}
    (member : (key, .filterSet g) ∈ entries) : sizeOf g < sizeOf (⟨entries⟩ : FilterSet) := by
  have inside := List.sizeOf_lt_of_mem member
  simp only [Prod.mk.sizeOf_spec, FilterValue.filterSet.sizeOf_spec] at inside
  simp only [Entries.mk.sizeOf_spec]
  omega

theorem nested?_eq_some_iff {f g : FilterSet} {k : FilterKind} :
    f.nested? k = some g ↔ f.get? k.name = some (.filterSet g) := by
  simp only [nested?, Option.bind_eq_some_iff]
  constructor
  · rintro ⟨value, found, set⟩
    cases value <;> simp_all [FilterValue.filterSet?]
  · exact fun found => ⟨_, found, rfl⟩

theorem mem_of_get? {f : FilterSet} {key : String} {value : FilterValue}
    (found : f.get? key = some value) : (key, value) ∈ f.toList := by
  simp only [Entries.get?, Option.map_eq_some_iff] at found
  obtain ⟨⟨k, v⟩, found, rfl⟩ := found
  have same : k = key := by simpa using List.find?_some found
  exact same ▸ List.mem_of_find?_eq_some found

theorem sizeOf_nested {f g : FilterSet} {k : FilterKind} (nested : f.nested? k = some g) :
    sizeOf g < sizeOf f :=
  sizeOf_lt_of_mem (mem_of_get? (nested?_eq_some_iff.mp nested))

/-- The elements of a scope that meet every filter of the set and that the set nested under "and"
selects, and with them those that the set nested under "or" selects. -/
def selects (d : Document) (f : FilterSet) (scope : Scope) (e : Element) : Bool :=
  (scope.holds e && f.meets d FilterKind.all e &&
    match _nested : f.nested? .andCollector with
    | some g => g.selects d (g.scopeOver d scope) e
    | none => true) ||
  match _nested : f.nested? .orCollector with
  | some g => g.selects d (g.scopeOver d scope) e
  | none => false
termination_by sizeOf f
decreasing_by all_goals exact sizeOf_nested _nested

def visits (d : Document) (f : FilterSet) (scope : Scope) : Visits :=
  (f, scope) ::
    ((match _nested : f.nested? .andCollector with
      | some g => g.visits d (g.scopeOver d scope)
      | none => []) ++
    match _nested : f.nested? .orCollector with
    | some g => g.visits d (g.scopeOver d scope)
    | none => [])
termination_by sizeOf f
decreasing_by all_goals exact sizeOf_nested _nested

theorem selects_eq (d : Document) (f : FilterSet) (scope : Scope) (e : Element) :
    f.selects d scope e =
      ((scope.holds e && f.meets d FilterKind.all e &&
        (f.nested? .andCollector).all fun g => g.selects d (g.scopeOver d scope) e) ||
      (f.nested? .orCollector).any fun g => g.selects d (g.scopeOver d scope) e) := by
  rw [selects]
  split <;> split <;> simp_all

def nestedVisits (d : Document) (f : FilterSet) (k : FilterKind) (scope : Scope) :
    Visits :=
  (f.nested? k).elim [] fun g => g.visits d (g.scopeOver d scope)

theorem visits_eq (d : Document) (f : FilterSet) (scope : Scope) :
    f.visits d scope = (f, scope) ::
      (f.nestedVisits d .andCollector scope ++ f.nestedVisits d .orCollector scope) := by
  rw [visits, nestedVisits, nestedVisits]
  split <;> split <;> simp_all

/-- A property of all sets holds if it passes from the sets nested in a set to the set. -/
theorem carried_induction {motive : FilterSet → Prop}
    (around : ∀ f : FilterSet, (∀ key g, (key, .filterSet g) ∈ f.toList → motive g) → motive f)
    (f : FilterSet) : motive f :=
  around f fun _ g _member => carried_induction around g
termination_by sizeOf f
decreasing_by exact sizeOf_lt_of_mem _member

theorem nested_induction {motive : FilterSet → Prop}
    (around : ∀ f, (∀ k g, f.nested? k = some g → motive g) → motive f) (f : FilterSet) :
    motive f := by
  induction f using carried_induction with
  | around f ih =>
    exact around f fun k g nested => ih k.name g (mem_of_get? (nested?_eq_some_iff.mp nested))

/-- The test of a set by itself, on each element of the scope that meets all cheaper filters. -/
def ownTrials (d : Document) (f : FilterSet) (scope : Scope) : List Trial :=
  f.test?.elim [] fun t =>
    (d.elements.filter fun e => scope.holds e && f.meets d FilterKind.native e).map fun e => (t, e)

end FilterSet

namespace Visits

def allOpen (d : Document) (visits : Visits) : Bool := visits.all fun visit => d.opens visit.2

def trials (d : Document) (visits : Visits) : List Trial :=
  visits.flatMap fun visit => visit.1.ownTrials d visit.2

def untilClosed (d : Document) (visits : Visits) : Visits :=
  visits.takeWhile fun visit => d.opens visit.2

end Visits

namespace FilterSet

theorem get?_withoutScopes (f : FilterSet) (k : FilterKind) :
    f.withoutScopes.get? k.name = f.get? k.name := by
  cases k <;> simp [withoutScopes, ScopeKey.all, ScopeKey.name, FilterKind.name]

theorem nested?_withoutScopes (f : FilterSet) (k : FilterKind) :
    f.withoutScopes.nested? k = f.nested? k := by
  rw [nested?, nested?, get?_withoutScopes]

theorem nestedVisits_withoutScopes (d : Document) (f : FilterSet) (k : FilterKind)
    (scope : Scope) : f.withoutScopes.nestedVisits d k scope = f.nestedVisits d k scope := by
  rw [nestedVisits, nestedVisits, nested?_withoutScopes]

theorem ownTrials_withoutScopes (d : Document) (f : FilterSet) (scope : Scope) :
    f.withoutScopes.ownTrials d scope = f.ownTrials d scope := by
  simp only [ownTrials, test?, meets, get?_withoutScopes]

/-- Scope keys have no part in what a set selects over a given scope. -/
theorem selects_withoutScopes (d : Document) (f : FilterSet) (scope : Scope) :
    f.withoutScopes.selects d scope = f.selects d scope := by
  funext e
  rw [selects_eq, selects_eq d f]
  simp only [meets, nested?_withoutScopes, get?_withoutScopes]

theorem allOpen_withoutScopes (d : Document) (f : FilterSet) (scope : Scope) :
    (f.withoutScopes.visits d scope).allOpen d = (f.visits d scope).allOpen d := by
  rw [visits_eq, visits_eq d f, nestedVisits_withoutScopes, nestedVisits_withoutScopes]
  rfl

theorem trials_withoutScopes (d : Document) (f : FilterSet) (scope : Scope) :
    ((f.withoutScopes.visits d scope).untilClosed d).trials d =
      ((f.visits d scope).untilClosed d).trials d := by
  rw [visits_eq, visits_eq d f, nestedVisits_withoutScopes, nestedVisits_withoutScopes,
    Visits.untilClosed, Visits.untilClosed, List.takeWhile_cons, List.takeWhile_cons]
  cases d.opens scope with
  | false => rfl
  | true => exact congrArg (· ++ _) (ownTrials_withoutScopes d f scope)

end FilterSet

end Sieve
