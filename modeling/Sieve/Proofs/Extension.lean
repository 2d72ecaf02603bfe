import Sieve.Proofs.Failures

/-!
Sets with one filter more. A query succeeds exactly if its set has known keys and every set that it
visits is ready by itself. A filter under a key that was free asks for what its own value needs and
for nothing else, and changes what is selected through that value alone.
-/

namespace Sieve

/-- An entry whose key is free stands beside all others. -/
theorem Ascending.insert_perm {α κ : Type} [LT κ] [DecidableLT κ]
    [Std.Trichotomous (α := κ) (· < ·)] {key : α → κ} {x : α} {xs : List α}
    (free : ∀ y ∈ xs, key y ≠ key x) : (insert key x xs).Perm (x :: xs) := by
  induction xs with
  | nil => exact .refl _
  | cons y rest ih =>
    have later := ih fun z member => free z (List.mem_cons_of_mem _ member)
    rw [insert]
    split
    · exact .refl _
    · next notLt =>
      split
      · exact (later.cons y).trans (.swap x y rest)
      · next notGt =>
        have same : key x = key y := Std.Trichotomous.trichotomous _ _ notLt notGt
        exact absurd same.symm (free y List.mem_cons_self)

namespace FilterKind

variable {d : Document} {k : FilterKind} {value : FilterValue}

theorem name_inj {j k : FilterKind} : j.name = k.name ↔ j = k := by
  constructor
  · intro same
    have found := congrArg ofName? same
    rw [ofName?_name, ofName?_name] at found
    exact Option.some.inj found
  · rintro rfl
    rfl

theorem name_ne_scope (k : FilterKind) (key : ScopeKey) : k.name ≠ key.name := by
  intro same
  have found := ScopeKey.ofName?_name key
  rw [← same, ScopeKey.ofName?_filter_name] at found
  cases found

/-- The value is of the filter's shape, and every reference in it stands for something. -/
def Accepts (d : Document) (k : FilterKind) (value : FilterValue) : Prop :=
  k.shape.fits value ∧ k.shape.resolves d value

theorem accepts_filterSet_iff {g : FilterSet} :
    k.Accepts d (.filterSet g) ↔ k.tier = .logical := by
  cases k <;> simp [Accepts, shape, tier, Shape.fits, Shape.resolves]

theorem holds_of_logical (logical : k.tier = .logical) (e : Element) : k.holds d value e := by
  cases k <;> first | rfl | cases logical

end FilterKind

namespace FilterSet

variable {d : Document} {c : Config} {f g : FilterSet} {k : FilterKind} {value : FilterValue}
  {scope : Scope} {e : Element}

theorem get?_set (f : FilterSet) (k j : FilterKind) (value : FilterValue) :
    (f.set k value).get? j.name = if k = j then some value else f.get? j.name := by
  rw [set, Entries.get?_insert]
  simp only [FilterKind.name_inj]

theorem nested?_set (f : FilterSet) (k j : FilterKind) (value : FilterValue) :
    (f.set k value).nested? j = if k = j then value.filterSet? else f.nested? j := by
  rw [nested?, get?_set]
  split <;> rfl

theorem nested?_of_free (free : f.get? k.name = none) : f.nested? k = none := by
  simp [nested?, free]

theorem mem_set (free : f.get? k.name = none) {entry : String × FilterValue} :
    entry ∈ (f.set k value).toList ↔ entry = (k.name, value) ∨ entry ∈ f.toList := by
  have others : ∀ other ∈ f.toList, other.1 ≠ k.name := by simpa [Entries.get?] using free
  exact (Ascending.insert_perm others).mem_iff.trans List.mem_cons

/-- A filter has no part in the scope of its set. -/
@[simp] theorem scopes_set (f : FilterSet) (k : FilterKind) (value : FilterValue) :
    (f.set k value).scopes = f.scopes := by
  simp [scopes, set, FilterKind.name_ne_scope]

theorem scopeOver_congr (same : f.scopes = g.scopes) (outer : Scope) :
    f.scopeOver d outer = g.scopeOver d outer := by
  rw [scopeOver, same, scopeOver]

@[simp] theorem scopeOver_set (d : Document) (f : FilterSet) (k : FilterKind)
    (value : FilterValue) (outer : Scope) :
    (f.set k value).scopeOver d outer = f.scopeOver d outer :=
  scopeOver_congr (scopes_set f k value) outer

theorem scopeOver_of_scopes (none : f.scopes = []) (outer : Scope) :
    f.scopeOver d outer = outer := by
  simp [scopeOver, none]

structure Ready (d : Document) (c : Config) (f : FilterSet) (scope : Scope) : Prop where
  ownScope : f.Scoped d c
  proper : f.Proper d
  opens : d.opens scope

structure Composes (d : Document) (c : Config) (f : FilterSet) (scope : Scope) : Prop where
  keys : f.KnownKeys
  ready : ∀ visit ∈ f.visits d scope, visit.1.Ready d c visit.2

/-- A set that can be carried out in another one. Here keys are looked at before the set's scope is
taken out. -/
structure Nests (d : Document) (c : Config) (f : FilterSet) (outer : Scope) : Prop where
  named : f.Throughout Named
  ready : ∀ visit ∈ f.visits d (f.scopeOver d outer), visit.1.Ready d c visit.2

theorem proper_iff :
    f.Proper d ↔ ∀ k value, f.get? (FilterKind.name k) = some value → k.Accepts d value :=
  ⟨fun ⟨fits, resolves⟩ k value found => ⟨fits k value found, resolves k value found⟩,
    fun all => ⟨fun k value found => (all k value found).1, fun k value found =>
      (all k value found).2⟩⟩

theorem ready_set (free : f.get? k.name = none) :
    (f.set k value).Ready d c scope ↔ f.Ready d c scope ∧ k.Accepts d value := by
  have sameScopes : (f.set k value).Scoped d c ↔ f.Scoped d c := by
    constructor
    · rintro ⟨single, fits, resolves⟩
      rw [scopes_set] at single fits resolves
      exact ⟨single, fits, resolves⟩
    · rintro ⟨single, fits, resolves⟩
      refine ⟨?_, ?_, ?_⟩ <;> rwa [scopes_set]
  have proper : (f.set k value).Proper d ↔ f.Proper d ∧ k.Accepts d value := by
    simp only [proper_iff, get?_set]
    grind
  constructor
  · rintro ⟨isScoped, isProper, opens⟩
    obtain ⟨isProper, accepted⟩ := proper.mp isProper
    exact ⟨⟨sameScopes.mp isScoped, isProper, opens⟩, accepted⟩
  · rintro ⟨⟨isScoped, isProper, opens⟩, accepted⟩
    exact ⟨sameScopes.mpr isScoped, proper.mpr ⟨isProper, accepted⟩, opens⟩

/-- Keys are judged entry by entry, those of a scope left aside. -/
theorem knownKeys_iff :
    f.KnownKeys ↔ ∀ entry ∈ f.toList, (∀ key, entry.1 ≠ ScopeKey.name key) →
      (FilterKind.ofName? entry.1).isSome ∧
        ∀ g : FilterSet, entry.2 = .filterSet g → g.Throughout Named := by
  constructor
  · rintro ⟨filters, nested⟩ ⟨key, value⟩ member noScope
    have kept := mem_withoutScopes.mpr ⟨member, noScope⟩
    refine ⟨filters key (mem_keys_iff.mpr ⟨value, kept⟩), ?_⟩
    rintro g rfl
    exact ⟨nested g (.direct kept), fun h deeper => nested h (.within kept deeper)⟩
  · intro known
    refine ⟨fun key member => ?_, fun g carried => ?_⟩
    · obtain ⟨value, kept⟩ := mem_keys_iff.mp member
      obtain ⟨member, noScope⟩ := mem_withoutScopes.mp kept
      exact (known _ member noScope).1
    · cases carried with
      | direct kept =>
        obtain ⟨member, noScope⟩ := mem_withoutScopes.mp kept
        exact ((known _ member noScope).2 _ rfl).1
      | within kept deeper =>
        obtain ⟨member, noScope⟩ := mem_withoutScopes.mp kept
        exact ((known _ member noScope).2 _ rfl).2 _ deeper

theorem knownKeys_set (free : f.get? k.name = none) :
    (f.set k value).KnownKeys ↔
      f.KnownKeys ∧ ∀ g : FilterSet, value = .filterSet g → g.Throughout Named := by
  have known : (FilterKind.ofName? k.name).isSome := by rw [FilterKind.ofName?_name]; rfl
  have noScope : ∀ key, k.name ≠ ScopeKey.name key := k.name_ne_scope
  simp only [knownKeys_iff, mem_set free]
  constructor
  · intro all
    exact ⟨fun entry member => all entry (.inr member), (all _ (.inl rfl) noScope).2⟩
  · rintro ⟨others, here⟩ entry (rfl | member)
    · exact fun _ => ⟨known, here⟩
    · exact others entry member

/-- A filter under a free key needs a value that it takes, and for a nested set that it nests. -/
theorem composes_set_iff (free : f.get? k.name = none) :
    (f.set k value).Composes d c scope ↔
      f.Composes d c scope ∧ k.Accepts d value ∧
        ∀ g : FilterSet, value = .filterSet g → g.Nests d c scope := by
  have none := nested?_of_free free
  have nested (j : FilterKind) (g : FilterSet) : (f.set k value).nested? j = some g ↔
      k = j ∧ value = .filterSet g ∨ f.nested? j = some g := by
    rw [nested?_set]
    split
    · next same =>
      subst same
      cases value <;> simp [none, FilterValue.filterSet?]
    · next apart => simp [apart]
  constructor
  · rintro ⟨keys, ready⟩
    obtain ⟨keys, named⟩ := (knownKeys_set free).mp keys
    obtain ⟨here, deeper⟩ := forall_visits_iff.mp ready
    obtain ⟨here, accepted⟩ := (ready_set free).mp here
    refine ⟨⟨keys, forall_visits_iff.mpr ⟨here, fun j g logical below => ?_⟩⟩, accepted, ?_⟩
    · exact deeper j g logical ((nested j g).mpr (.inr below))
    · rintro g rfl
      have logical := FilterKind.accepts_filterSet_iff.mp accepted
      exact ⟨named g rfl, deeper k g logical ((nested k g).mpr (.inl ⟨rfl, rfl⟩))⟩
  · rintro ⟨⟨keys, ready⟩, accepted, nests⟩
    obtain ⟨here, deeper⟩ := forall_visits_iff.mp ready
    refine ⟨(knownKeys_set free).mpr ⟨keys, fun g same => (nests g same).named⟩,
      forall_visits_iff.mpr ⟨(ready_set free).mpr ⟨here, accepted⟩, fun j g logical below => ?_⟩⟩
    rcases (nested j g).mp below with ⟨_, same⟩ | old
    · exact (nests g same).ready
    · exact deeper j g logical old

/-- Without a nested set there is nothing more to ask. -/
theorem composes_set_leaf_iff (free : f.get? k.name = none) (leaf : k.tier ≠ .logical) :
    (f.set k value).Composes d c scope ↔ f.Composes d c scope ∧ k.Accepts d value := by
  rw [composes_set_iff free]
  refine and_congr_right fun _ => and_iff_left_of_imp fun accepted g same => ?_
  subst same
  exact absurd (FilterKind.accepts_filterSet_iff.mp accepted) leaf

theorem composes_set_nested_iff (free : f.get? k.name = none) (logical : k.tier = .logical) :
    (f.set k (.filterSet g)).Composes d c scope ↔ f.Composes d c scope ∧ g.Nests d c scope := by
  rw [composes_set_iff free]
  simp [FilterKind.accepts_filterSet_iff, logical]

theorem meets_all_iff :
    f.meets d FilterKind.all e ↔ ∀ k value, f.get? (FilterKind.name k) = some value →
      k.holds d value e := by
  rw [meets, List.all_eq_true]
  simp only [FilterKind.mem_all, true_implies, Option.all_eq_true]

theorem meets_set (free : f.get? k.name = none) :
    (f.set k value).meets d FilterKind.all e =
      (f.meets d FilterKind.all e && k.holds d value e) := by
  rw [Bool.eq_iff_iff, Bool.and_eq_true]
  simp only [meets_all_iff, get?_set]
  grind

/-- Combinations do not count among the filters that an element meets by itself. -/
theorem meets_set_logical (logical : k.tier = .logical) :
    (f.set k value).meets d FilterKind.all e = f.meets d FilterKind.all e := by
  rw [Bool.eq_iff_iff]
  simp only [meets_all_iff, get?_set]
  constructor
  · intro met j other found
    by_cases same : k = j
    · subst same
      exact FilterKind.holds_of_logical logical e
    · exact met j other (by rw [if_neg same, found])
  · intro met j other found
    by_cases same : k = j
    · subst same
      exact FilterKind.holds_of_logical logical e
    · exact met j other (by rwa [if_neg same] at found)

theorem selects_set_leaf (free : f.get? k.name = none) (leaf : k.tier ≠ .logical) :
    (f.set k value).selects d scope e =
      ((scope.holds e && (f.meets d FilterKind.all e && k.holds d value e) &&
        (f.nested? .andCollector).all fun g => g.selects d (g.scopeOver d scope) e) ||
      (f.nested? .orCollector).any fun g => g.selects d (g.scopeOver d scope) e) := by
  have noAnd : k ≠ .andCollector := by rintro rfl; exact leaf rfl
  have noOr : k ≠ .orCollector := by rintro rfl; exact leaf rfl
  rw [selects_eq, meets_set free, nested?_set, nested?_set, if_neg noAnd, if_neg noOr]

theorem selects_set_and (d : Document) (f g : FilterSet) (scope : Scope) (e : Element) :
    (f.set .andCollector (.filterSet g)).selects d scope e =
      ((scope.holds e && f.meets d FilterKind.all e && g.selects d (g.scopeOver d scope) e) ||
      (f.nested? .orCollector).any fun h => h.selects d (h.scopeOver d scope) e) := by
  rw [selects_eq, meets_set_logical rfl, nested?_set, nested?_set]
  rfl

theorem selects_set_or (d : Document) (f g : FilterSet) (scope : Scope) (e : Element) :
    (f.set .orCollector (.filterSet g)).selects d scope e =
      ((scope.holds e && f.meets d FilterKind.all e &&
        (f.nested? .andCollector).all fun h => h.selects d (h.scopeOver d scope) e) ||
      g.selects d (g.scopeOver d scope) e) := by
  rw [selects_eq, meets_set_logical rfl, nested?_set, nested?_set]
  rfl

def answer (d : Document) (f : FilterSet) (scope : Scope) : Matches :=
  ⟨scope, d.select (f.selects d scope)⟩

theorem mem_answer {id : ElementId} :
    id ∈ (f.answer d scope).ids ↔ ∃ e, d.element? id = some e ∧ f.selects d scope e :=
  Document.mem_select

theorem composes_iff :
    f.Composes d c scope ↔ f.WellFormed d c scope ∧ (f.visits d scope).allOpen d := by
  rw [Visits.allOpen, List.all_eq_true]
  constructor
  · rintro ⟨keys, ready⟩
    exact ⟨⟨keys, fun visit member => (ready visit member).ownScope,
      fun visit member => (ready visit member).proper⟩, fun visit member =>
        (ready visit member).opens⟩
  · rintro ⟨⟨keys, scopes, filters⟩, opens⟩
    exact ⟨keys, fun visit member => ⟨scopes visit member, filters visit member,
      opens visit member⟩⟩

theorem collect_ok_iff {s : Selection} :
    (f.collect d c scope).outcome = .ok s ↔
      f.scopes = [] ∧ f.Composes d c scope ∧ d.select (f.selects d scope) = s := by
  rw [composes_iff]
  by_cases sound : f.scopes = [] ∧ f.WellFormed d c scope
  · rw [(collect_tours sound.1 sound.2).ok_iff]
    simp [sound]
  · have failed := (collect_flawed sound).not_ok (b := s)
    grind

end FilterSet

namespace Matches

open FilterSet

variable {d : Document} {c : Config} {f : FilterSet} {scope : Scope} {m : Matches}

theorem inScope_answer_iff :
    (inScope d c scope f).outcome = .ok m ↔
      f.scopes = [] ∧ f.Composes d c scope ∧ f.answer d scope = m := by
  simp only [inScope_ok_iff, collect_ok_iff]
  constructor
  · rintro ⟨_, ⟨none, composes, rfl⟩, rfl⟩
    exact ⟨none, composes, rfl⟩
  · rintro ⟨none, composes, rfl⟩
    exact ⟨_, ⟨none, composes, rfl⟩, rfl⟩

theorem ofFilters_answer_iff :
    (ofFilters d c f).outcome = .ok m ↔
      f.Composes d c (f.scopeOver d .document) ∧ f.answer d (f.scopeOver d .document) = m := by
  rw [composes_iff]
  by_cases sound : f.WellFormed d c (f.scopeOver d .document)
  · rw [(ofFilters_tours sound).ok_iff]
    simp [sound, answer]
  · have failed := (ofFilters_flawed sound).not_ok (b := m)
    simp [sound, failed]

end Matches

end Sieve
