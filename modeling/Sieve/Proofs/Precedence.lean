import Sieve.Document.Sample
import Sieve.Proofs.Extension

/-!
Several scope keys in one set. Where the first in order of precedence counts, what is given under the
others might as well not be there, in the set of a query and in the sets nested in it as
combinations; where it does not, no query of such a set succeeds.
-/

namespace Sieve

/-- Entries are looked up as before under the keys that are kept. -/
theorem Entries.get?_filter {β : Type} (e : Entries β) (keep : String → Bool) (key : String) :
    (⟨e.toList.filter fun entry => keep entry.1⟩ : Entries β).get? key =
      if keep key then e.get? key else none := by
  have under : (fun entry : String × β => decide (keep entry.1 ∧ decide (entry.1 = key))) =
      fun entry => keep key && decide (entry.1 = key) := by
    funext entry
    by_cases same : entry.1 = key <;> simp [same]
  rw [get?, List.find?_filter, under]
  cases keep key
  · simp
  · rfl

theorem ScopeKey.name_inj {j k : ScopeKey} : j.name = k.name ↔ j = k := by
  cases j <;> cases k <;> decide

namespace Config

/-- The first scope that is given counts, however many follow. -/
theorem chooseScope_take {c : Config} (precedence : c.scopePrecedence)
    (given : List (ScopeKey × FilterValue)) : c.chooseScope (given.take 1) = c.chooseScope given := by
  rcases given with _ | ⟨first, _ | ⟨second, more⟩⟩
  · rfl
  · rfl
  · simp [chooseScope, precedence]

theorem chooseScope_ambiguous {c : Config} (strict : ¬ c.scopePrecedence)
    {given : List (ScopeKey × FilterValue)} (several : 1 < given.length) :
    c.chooseScope given = .error (.ambiguousScope (given.map fun entry => entry.1.name)) := by
  rcases given with _ | ⟨first, _ | ⟨second, more⟩⟩
  · simp at several
  · simp at several
  · simp [chooseScope, strict]

end Config

namespace FilterSet

variable {d : Document} {c : Config} {f g : FilterSet} {scope : Scope}

/-- The scope keys of the set behind the first. -/
def shadowed (f : FilterSet) : List ScopeKey := f.scopes.tail.map Prod.fst

def keepFirst (f : FilterSet) : FilterSet :=
  ⟨f.toList.filter fun entry => f.shadowed.all fun key => key.name != entry.1⟩

def isCombination (key : String) : Bool := (FilterKind.ofName? key).any fun k => k.tier = .logical

mutual

/-- What is left of the value under the key: of a combined set, a set with first scopes only. -/
def firstScopesValue (key : String) : FilterValue → FilterValue
  | .filterSet ⟨entries⟩ =>
    if isCombination key then .filterSet (keepFirst ⟨firstScopesEntries entries⟩)
    else .filterSet ⟨entries⟩
  | value => value

def firstScopesEntries : List (String × FilterValue) → List (String × FilterValue)
  | [] => []
  | (key, value) :: rest => (key, firstScopesValue key value) :: firstScopesEntries rest

end

def firstScopesInside (f : FilterSet) : FilterSet := ⟨firstScopesEntries f.toList⟩

/-- The set and all sets nested in it as combinations, each with the first of its scope keys only. -/
def firstScopes (f : FilterSet) : FilterSet := f.firstScopesInside.keepFirst

inductive Combines : FilterSet → FilterSet → Prop where
  | self {f : FilterSet} : Combines f f
  | nested {f g h : FilterSet} {key : String} (combination : isCombination key)
      (entry : (key, .filterSet g) ∈ f.toList) (deeper : Combines g h) : Combines f h

def PlainShadows (f : FilterSet) : Prop :=
  ∀ key ∈ f.shadowed, ∀ g : FilterSet, (key.name, .filterSet g) ∉ f.toList

theorem toList_firstScopesInside (f : FilterSet) :
    f.firstScopesInside.toList =
      f.toList.map fun entry => (entry.1, firstScopesValue entry.1 entry.2) := by
  have each (entries : List (String × FilterValue)) : firstScopesEntries entries =
      entries.map fun entry => (entry.1, firstScopesValue entry.1 entry.2) := by
    induction entries with
    | nil => rfl
    | cons entry rest ih => rw [firstScopesEntries, ih, List.map_cons]
  exact each f.toList

theorem firstScopesValue_filterSet {key : String} (combination : isCombination key)
    (g : FilterSet) : firstScopesValue key (.filterSet g) = .filterSet g.firstScopes := by
  rw [firstScopesValue, if_pos combination]
  rfl

theorem firstScopesValue_other {key : String} (other : ¬ isCombination key)
    (value : FilterValue) : firstScopesValue key value = value := by
  cases value with
  | filterSet g => rw [firstScopesValue, if_neg other]
  | _ => rfl

theorem isCombination_name (k : FilterKind) : isCombination k.name ↔ k.tier = .logical := by
  rw [isCombination, FilterKind.ofName?_name, Option.any_some, decide_eq_true_iff]

theorem isCombination_scope (key : ScopeKey) : ¬ isCombination key.name := by
  cases key <;> decide

theorem get?_firstScopesInside (f : FilterSet) (key : String) :
    f.firstScopesInside.get? key = (f.get? key).map (firstScopesValue key) := by
  rw [Entries.get?, toList_firstScopesInside, List.find?_map, Option.map_map, Entries.get?]
  change Option.map _ (f.toList.find? fun entry => entry.1 = key) = _
  cases found : f.toList.find? fun entry => entry.1 = key with
  | none => rfl
  | some entry =>
    have same : entry.1 = key := by simpa using List.find?_some found
    simp [same]

theorem scopes_firstScopesInside (f : FilterSet) : f.firstScopesInside.scopes = f.scopes := by
  simp only [scopes, get?_firstScopesInside]
  refine List.filterMap_congr fun key _ => ?_
  cases f.get? key.name with
  | none => rfl
  | some value =>
    simp only [Option.map_some, firstScopesValue_other (isCombination_scope key)]

theorem get?_keepFirst (f : FilterSet) (key : String) :
    f.keepFirst.get? key = if f.shadowed.all fun k => k.name != key then f.get? key else none :=
  Entries.get?_filter f (fun key => f.shadowed.all fun k => k.name != key) key

theorem get?_keepFirst_filter (f : FilterSet) (k : FilterKind) :
    f.keepFirst.get? k.name = f.get? k.name := by
  rw [get?_keepFirst, if_pos]
  rw [List.all_eq_true]
  exact fun key _ => bne_iff_ne.mpr (k.name_ne_scope key).symm

theorem scopes_keepFirst (f : FilterSet) : f.keepFirst.scopes = f.scopes.take 1 := by
  cases view : f.get? ScopeKey.view.name <;> cases listed : f.get? ScopeKey.elements.name <;>
    cases ids : f.get? ScopeKey.elementIds.name <;>
    simp [scopes, shadowed, get?_keepFirst, ScopeKey.name_inj, ScopeKey.all, view, listed, ids]

theorem scopes_firstScopes (f : FilterSet) : f.firstScopes.scopes = f.scopes.take 1 := by
  rw [firstScopes, scopes_keepFirst, scopes_firstScopesInside]

theorem get?_firstScopes (f : FilterSet) (k : FilterKind) :
    f.firstScopes.get? k.name = (f.get? k.name).map (firstScopesValue k.name) := by
  rw [firstScopes, get?_keepFirst_filter, get?_firstScopesInside]

theorem resolveScope_firstScopes (precedence : c.scopePrecedence) (f : FilterSet) :
    f.firstScopes.resolveScope d c = f.resolveScope d c := by
  rw [resolveScope, scopes_firstScopes, Config.chooseScope_take precedence, resolveScope]

theorem mem_firstScopes {entry : String × FilterValue} (member : entry ∈ f.firstScopes.toList) :
    ∃ value, (entry.1, value) ∈ f.toList ∧ firstScopesValue entry.1 value = entry.2 := by
  have inside : entry ∈ f.firstScopesInside.toList := (List.mem_filter.mp member).1
  rw [toList_firstScopesInside, List.mem_map] at inside
  obtain ⟨⟨key, value⟩, given, rfl⟩ := inside
  exact ⟨value, given, rfl⟩

/-- No set names two scopes any more. -/
theorem length_scopes_of_combines (combined : f.firstScopes.Combines g) : g.scopes.length ≤ 1 := by
  induction f using carried_induction with
  | around f ih =>
    cases combined with
    | self =>
      rw [scopes_firstScopes, List.length_take]
      omega
    | nested combination entry deeper =>
      obtain ⟨value, given, changed⟩ := mem_firstScopes entry
      cases value with
      | filterSet h =>
        rw [firstScopesValue_filterSet combination] at changed
        obtain rfl := FilterValue.filterSet.inj changed
        exact ih _ h given deeper
      | _ => cases changed

/-- Steps are planned from what stands under the names of their filters, and from nothing else. -/
theorem planSteps_congr {planners others : Entries Planner}
    (same : ∀ k : FilterKind, (planners.get? k.name).map (· k scope) =
      (others.get? k.name).map (· k scope)) (kinds : List FilterKind) :
    planSteps planners scope kinds = planSteps others scope kinds := by
  induction kinds with
  | nil => rfl
  | cons k more ih =>
    have here := same k
    rw [planSteps, planSteps, ih]
    cases first : planners.get? k.name <;> cases second : others.get? k.name <;>
      simp_all

theorem plan_congr
    (same : ∀ k : FilterKind, (f.get? k.name).map (planner d c · k scope) =
      (g.get? k.name).map (planner d c · k scope)) : f.plan d c scope = g.plan d c scope := by
  rw [plan, plan, planSteps_congr fun k => ?_]
  simpa [get?_planners_toList, Function.comp_def] using same k

theorem plan_withoutScopes (f : FilterSet) :
    f.withoutScopes.plan d c scope = f.plan d c scope :=
  plan_congr fun k => by rw [get?_withoutScopes]

theorem plan_firstScopes (precedence : c.scopePrecedence) (f : FilterSet) :
    f.firstScopes.plan d c scope = f.plan d c scope := by
  induction f using nested_induction generalizing scope with
  | around f ih =>
    have nested (k : FilterKind) (g : FilterSet) (below : f.nested? k = some g) :
        planNested d c g.firstScopes ⟨planners d c g.firstScopes.toList⟩ scope =
          planNested d c g ⟨planners d c g.toList⟩ scope := by
      rw [planNested_eq, planNested_eq, resolveScope_firstScopes precedence]
      simp only [ih k g below]
    refine plan_congr fun k => ?_
    rw [get?_firstScopes, Option.map_map]
    cases found : f.get? k.name with
    | none => rfl
    | some value =>
      rw [Option.map_some, Option.map_some, Function.comp_apply]
      by_cases combination : isCombination k.name
      · cases value with
        | filterSet g =>
          have same := nested k g (nested?_eq_some_iff.mpr found)
          rw [firstScopesValue_filterSet combination]
          cases k with
          | andCollector | orCollector => exact congrArg (fun p => some (_ <$> p)) same
          | _ => cases (isCombination_name _).mp combination
        | _ => rfl
      · rw [firstScopesValue_other combination]

theorem shadowed_firstScopesInside (f : FilterSet) : f.firstScopesInside.shadowed = f.shadowed := by
  rw [shadowed, scopes_firstScopesInside, shadowed]

theorem checkEntries_map {nested : Bool} {entries : List (String × FilterValue)}
    {change : String → FilterValue → FilterValue}
    (same : ∀ entry ∈ entries, checkValue (change entry.1 entry.2) = checkValue entry.2) :
    checkEntries nested (entries.map fun entry => (entry.1, change entry.1 entry.2)) =
      checkEntries nested entries := by
  induction entries with
  | nil => rfl
  | cons entry rest ih =>
    obtain ⟨here, later⟩ := List.forall_mem_cons.mp same
    rw [List.map_cons, checkEntries, checkEntries, here, ih later]

/-- Entries in which there is nothing to find fault with may as well be left out. -/
theorem checkEntries_filter {nested : Bool} {entries : List (String × FilterValue)}
    {keep : String × FilterValue → Bool}
    (sound : ∀ entry ∈ entries, ¬ keep entry →
      checkKey nested entry.1 = .ok () ∧ checkValue entry.2 = .ok ()) :
    checkEntries nested (entries.filter keep) = checkEntries nested entries := by
  induction entries with
  | nil => rfl
  | cons entry rest ih =>
    obtain ⟨here, later⟩ := List.forall_mem_cons.mp sound
    by_cases kept : keep entry
    · rw [List.filter_cons_of_pos kept, checkEntries, checkEntries, ih later]
    · obtain ⟨key, value⟩ := here kept
      rw [List.filter_cons_of_neg kept, checkEntries, key, value, ih later]
      rfl

/-- In a nested set no fault is found in a scope key, nor in a value that is no set. -/
theorem checkEntries_firstScopes (plain : f.PlainShadows)
    (same : ∀ entry ∈ f.toList,
      checkValue (firstScopesValue entry.1 entry.2) = checkValue entry.2) :
    checkEntries true f.firstScopes.toList = checkEntries true f.toList := by
  rw [← checkEntries_map same, ← toList_firstScopesInside, firstScopes, keepFirst]
  refine checkEntries_filter fun entry member dropped => ?_
  rw [shadowed_firstScopesInside, Bool.not_eq_true, List.all_eq_false] at dropped
  obtain ⟨key, behind, named⟩ := dropped
  obtain ⟨name, value⟩ := entry
  obtain rfl : key.name = name := by simpa using named
  rw [toList_firstScopesInside, List.mem_map] at member
  obtain ⟨⟨_, given⟩, member, changed⟩ := member
  obtain ⟨rfl, rfl⟩ := Prod.mk.inj changed
  constructor
  · rw [checkKey_true_ok_iff, ScopeKey.ofName?_name]
    exact .inr rfl
  · rw [firstScopesValue_other (isCombination_scope key)]
    cases given with
    | filterSet g => exact absurd member (plain key behind g)
    | _ => rfl

theorem checkValue_firstScopes (plain : ∀ g, f.Combines g → g.PlainShadows) :
    ∀ entry ∈ f.toList, checkValue (firstScopesValue entry.1 entry.2) = checkValue entry.2 := by
  induction f using carried_induction with
  | around f ih =>
    rintro ⟨key, value⟩ entry
    by_cases combination : isCombination key
    · cases value with
      | filterSet g =>
        have inside : ∀ h, Combines g h → h.PlainShadows := fun h deeper =>
          plain h (.nested combination entry deeper)
        rw [firstScopesValue_filterSet combination]
        exact checkEntries_firstScopes (inside g .self) (ih key g entry inside)
      | _ => rfl
    · rw [firstScopesValue_other combination]

theorem toList_withoutScopes (f : FilterSet) :
    f.withoutScopes.toList =
      f.toList.filter fun entry => ScopeKey.all.all fun key => key.name != entry.1 := by
  simp only [withoutScopes, ScopeKey.all, Entries.erase, List.foldl_cons, List.foldl_nil,
    List.filter_filter]
  refine List.filter_congr fun entry _ => ?_
  rw [Bool.eq_iff_iff]
  simp only [List.all_cons, List.all_nil, Bool.and_eq_true, bne_iff_ne, decide_eq_true_eq]
  grind

theorem toList_withoutScopes_firstScopes (f : FilterSet) :
    f.firstScopes.withoutScopes.toList =
      f.withoutScopes.toList.map fun entry => (entry.1, firstScopesValue entry.1 entry.2) := by
  rw [toList_withoutScopes, firstScopes, keepFirst, toList_firstScopesInside, List.filter_filter,
    toList_withoutScopes, List.filter_map]
  congr 1
  -- A key that names no scope names none of those behind the first.
  refine List.filter_congr fun entry _ => ?_
  rw [Bool.eq_iff_iff, Function.comp_apply, Bool.and_eq_true, and_iff_left_iff_imp]
  simp only [List.all_eq_true]
  exact fun apart key _ => apart key key.mem_all

theorem names_of_scopes (f : FilterSet) : f.scopes.map (fun given => given.1.name) =
    ["view", "elements", "element_ids"].filter fun key => f.contains key := by
  have each (keys : List ScopeKey) :
      (keys.filterMap fun k => (f.get? k.name).map fun value => (k, value)).map
        (fun given => given.1.name) = (keys.map ScopeKey.name).filter fun key => f.contains key := by
    induction keys with
    | nil => rfl
    | cons key more ih =>
      rw [List.filterMap_cons, List.map_cons, List.filter_cons, ← ih, Entries.contains]
      cases f.get? key.name <;> rfl
  exact each ScopeKey.all

theorem resolveScope_ambiguous (strict : ¬ c.scopePrecedence) (several : 1 < f.scopes.length) :
    f.resolveScope d c = throw (.ambiguousScope
      (["view", "elements", "element_ids"].filter fun key => f.contains key)) := by
  rw [resolveScope, Config.chooseScope_ambiguous strict several, names_of_scopes]
  rfl

/-- Which sets are visited does not depend on the scope around them. -/
theorem sets_of_visits (d : Document) (f : FilterSet) (scope other : Scope) :
    (f.visits d scope).map Prod.fst = (f.visits d other).map Prod.fst := by
  induction f using nested_induction generalizing scope other with
  | around f ih =>
    have below (k : FilterKind) : (f.nestedVisits d k scope).map Prod.fst =
        (f.nestedVisits d k other).map Prod.fst := by
      rw [nestedVisits, nestedVisits]
      cases nested : f.nested? k with
      | none => rfl
      | some g => exact ih k g nested _ _
    rw [visits_eq, visits_eq d f other]
    simp only [List.map_cons, List.map_append, below]

end FilterSet

namespace Matches

open FilterSet

variable {d : Document} {c : Config} {f : FilterSet}

theorem ofFilters_firstScopes (precedence : c.scopePrecedence)
    (plain : ∀ g, f.Combines g → g.PlainShadows) :
    ofFilters d c f.firstScopes = ofFilters d c f := by
  have checked : f.firstScopes.withoutScopes.validate = f.withoutScopes.validate := by
    rw [validate, toList_withoutScopes_firstScopes, validate]
    refine checkEntries_map fun entry member => ?_
    exact checkValue_firstScopes plain entry (mem_withoutScopes.mp member).1
  rw [ofFilters_eq, ofFilters_eq, resolveScope_firstScopes precedence]
  simp only [collect, checked, plan_withoutScopes, plan_firstScopes precedence]

theorem ofFilters_ambiguous_inside (strict : ¬ c.scopePrecedence) {scope : Scope}
    {visit : FilterSet × Scope} (visited : visit ∈ f.visits d scope)
    (several : 1 < visit.1.scopes.length) : ∃ e, (ofFilters d c f).outcome = .error e := by
  cases answered : (ofFilters d c f).outcome with
  | error e => exact ⟨e, rfl⟩
  | ok m =>
    have accepts := Accepts.of_ok answered
    have member : visit.1 ∈ (f.visits d scope).map Prod.fst := List.mem_map_of_mem visited
    rw [sets_of_visits d f scope (f.scopeOver d .document), List.mem_map] at member
    obtain ⟨here, visited, same⟩ := member
    rcases (accepts.wellFormed.scopes here visited).single with precedence | single
    · exact absurd precedence strict
    · rw [same] at single
      omega

/-- Where the first scope key counts, a query runs as if no set named another; where it does not, no
query of a set that names several succeeds, and at the top they are told before all else. -/
theorem scopes_follow_policy (d : Document) (c : Config) (f : FilterSet) :
    (∀ g, f.firstScopes.Combines g → g.scopes.length ≤ 1) ∧
    (c.scopePrecedence → (∀ g, f.Combines g → g.PlainShadows) →
      ofFilters d c f.firstScopes = ofFilters d c f) ∧
    (¬ c.scopePrecedence →
      (∀ scope, ∀ visit ∈ f.visits d scope, 1 < visit.1.scopes.length →
        ∃ e, (ofFilters d c f).outcome = .error e) ∧
      (1 < f.scopes.length → ofFilters d c f = throw (.ambiguousScope
        (["view", "elements", "element_ids"].filter fun key => f.contains key)))) := by
  refine ⟨fun _ => length_scopes_of_combines, ofFilters_firstScopes, fun strict => ?_⟩
  refine ⟨?_, fun several => ?_⟩
  · intro scope visit visited several
    exact ofFilters_ambiguous_inside strict visited several
  · rw [ofFilters_eq, resolveScope_ambiguous strict several]
    rfl

def wallsOrNotes : FilterSet := ⟨[
  ("element_ids", .text "everything"),
  ("elements", .flag true),
  ("of_class", .text "Wall"),
  ("or_collector", .filterSet ⟨[
    ("elements", .element (.number 99)),
    ("of_category", .text "TextNotes"),
    ("view", .number 11)]⟩),
  ("view", .number 10)]⟩

theorem wallsOrNotes_follows_policy :
    let d := Document.sample 0
    let first : Config := { scopePrecedence := true }
    ofFilters d first wallsOrNotes.firstScopes = ofFilters d first wallsOrNotes ∧
    (ofFilters d first wallsOrNotes).outcome = .ok ⟨.view ⟨10⟩, d, [⟨21⟩, ⟨22⟩, ⟨41⟩]⟩ ∧
    ofFilters d {} wallsOrNotes = throw (.ambiguousScope ["view", "elements", "element_ids"]) := by
  intro d first
  have plain : ∀ g, wallsOrNotes.Combines g → g.PlainShadows := by
    intro g combined
    cases combined with
    | self =>
      intro key _ h
      cases key <;> simp [wallsOrNotes, ScopeKey.name]
    | nested _ entry deeper =>
      simp only [wallsOrNotes, List.mem_cons, Prod.mk.injEq, reduceCtorEq, and_false, false_or,
        FilterValue.filterSet.injEq, List.not_mem_nil, or_false] at entry
      obtain ⟨rfl, rfl⟩ := entry
      cases deeper with
      | self =>
        intro key _ h
        cases key <;> simp [ScopeKey.name]
      | nested _ entry _ => simp at entry
  exact ⟨(scopes_follow_policy d first wallsOrNotes).2.1 rfl plain, rfl,
    ((scopes_follow_policy d {} wallsOrNotes).2.2 (by decide)).2 (by decide)⟩

end Matches

end Sieve
