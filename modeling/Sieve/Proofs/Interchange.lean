import Mathlib.Data.List.Forall2
import Sieve.Proofs.Precedence

/-!
The forms of a reference to an element. Where no two elements share a unique id, an element that a
document holds may be named by its id, its number or its unique id, and under most keys by its
number as a plain value; sets that differ in nothing else, at any depth, have the same outcome.
-/

namespace Sieve

inductive ElementRef.Names (e : Element) : ElementRef → Prop where
  | id : Names e (.id e.id)
  | number : Names e (.number e.id.number)
  | uniqueId : Names e (.uniqueId e.uniqueId)

/-- The same reference, or two forms for one element of the document. -/
inductive ElementRef.Alike (d : Document) : ElementRef → ElementRef → Prop where
  | same {r : ElementRef} : Alike d r r
  | respelled {r s : ElementRef} {e : Element} (held : e ∈ d.elements) (valid : e.id.isValid)
      (one : r.Names e) (other : s.Names e) : Alike d r s

mutual

/-- The same value under a key, but for the forms of references in it. The filter by category takes
plain numbers for those of categories. -/
inductive FilterValue.Alike (d : Document) : String → FilterValue → FilterValue → Prop where
  | same {key : String} {value : FilterValue} : FilterValue.Alike d key value value
  | element {key : String} {r s : ElementRef} (alike : r.Alike d s) :
      FilterValue.Alike d key (.element r) (.element s)
  | plain {key : String} {r : ElementRef} {e : Element} (other : key ≠ FilterKind.ofCategory.name)
      (held : e ∈ d.elements) (valid : e.id.isValid) (named : r.Names e) :
      FilterValue.Alike d key (.element r) (.number e.id.number)
  | elements {key : String} {refs others : List ElementRef}
      (each : List.Forall₂ (ElementRef.Alike d) refs others) :
      FilterValue.Alike d key (.elements refs) (.elements others)
  | filterSet {key : String} {entries others : List (String × FilterValue)}
      (inside : EntriesAlike d entries others) :
      FilterValue.Alike d key (.filterSet ⟨entries⟩) (.filterSet ⟨others⟩)

inductive EntriesAlike (d : Document) :
    List (String × FilterValue) → List (String × FilterValue) → Prop where
  | nil : EntriesAlike d [] []
  | cons {key : String} {value other : FilterValue} {rest more : List (String × FilterValue)}
      (here : FilterValue.Alike d key value other) (later : EntriesAlike d rest more) :
      EntriesAlike d ((key, value) :: rest) ((key, other) :: more)

end

def FilterSet.Alike (d : Document) (f g : FilterSet) : Prop := EntriesAlike d f.toList g.toList

section References

variable {d : Document} (apart : (d.elements.map Element.uniqueId).Nodup)

include apart

theorem Document.resolve?_uniqueId {e : Element} (held : e ∈ d.elements) :
    d.resolve? e.uniqueId = some e.id := by
  rw [resolve?]
  cases found : d.elements.find? (·.uniqueId = e.uniqueId) with
  | none => exact absurd (List.find?_eq_none.mp found e held) (by simp)
  | some other =>
    have same : other.uniqueId = e.uniqueId := by simpa using List.find?_some found
    rw [List.inj_on_of_nodup_map apart (List.mem_of_find?_eq_some found) held same]
    rfl

namespace ElementRef

theorem Names.target {r : ElementRef} {e : Element} (named : r.Names e) (held : e ∈ d.elements)
    (valid : e.id.isValid) : r.target d = .ok e.id := by
  have looked : r.lookUp d = .ok e.id := by
    cases named with
    | id | number => rfl
    | uniqueId => rw [lookUp, d.resolve?_uniqueId apart held]
  rw [ElementRef.target, looked]
  exact if_pos valid

theorem Alike.target {r s : ElementRef} (alike : r.Alike d s) : r.target d = s.target d := by
  cases alike with
  | same => rfl
  | respelled held valid one other =>
    rw [one.target apart held valid, other.target apart held valid]

theorem Alike.targets {refs others : List ElementRef} (each : List.Forall₂ (Alike d) refs others) :
    targets d refs = targets d others := by
  induction each with
  | nil => rfl
  | cons here _ ih =>
    rw [ElementRef.targets, List.mapM_cons, here.target apart]
    rw [ElementRef.targets, ElementRef.targets] at ih
    rw [ElementRef.targets, List.mapM_cons, ih]

end ElementRef

namespace FilterValue.Alike

variable {key : String} {value other : FilterValue}

theorem elementRef? (alike : Alike d key value other) :
    value.elementRef?.map (ElementRef.target d) = other.elementRef?.map (ElementRef.target d) := by
  cases alike with
  | element named => exact congrArg some (named.target apart)
  | plain _ held valid named =>
    exact congrArg some ((named.target apart held valid).trans
      (ElementRef.Names.number.target apart held valid).symm)
  | same | elements | filterSet => rfl

theorem elementRefs? (alike : Alike d key value other) :
    value.elementRefs?.map (ElementRef.targets d) =
      other.elementRefs?.map (ElementRef.targets d) := by
  cases alike with
  | same | filterSet => rfl
  | element named => exact congrArg some (ElementRef.Alike.targets apart (.cons named .nil))
  | plain _ held valid named =>
    refine congrArg some (ElementRef.Alike.targets apart (.cons ?_ .nil))
    exact .respelled held valid named .number
  | elements each => exact congrArg some (ElementRef.Alike.targets apart each)

omit apart in
theorem classRef? (alike : Alike d key value other) : value.classRef? = other.classRef? := by
  cases alike <;> rfl

end FilterValue.Alike

namespace FilterKind

variable {k : FilterKind} {value other : FilterValue}

theorem element_congr {key : String} (alike : FilterValue.Alike d key value other) :
    (k.element d value).outcome = (k.element d other).outcome := by
  have same := alike.elementRef? apart
  rw [element, element]
  cases first : value.elementRef? <;> cases second : other.elementRef? <;>
    simp_all [ElementRef.outcome_resolve]

theorem sampleCategory_congr {r s : ElementRef} (alike : r.Alike d s) :
    (sampleCategory d r).outcome = (sampleCategory d s).outcome := by
  rw [sampleCategory, sampleCategory, Run.outcome_bind, Run.outcome_bind,
    ElementRef.outcome_resolve, ElementRef.outcome_resolve, alike.target apart]

theorem resolveCategory_congr (alike : FilterValue.Alike d ofCategory.name value other) :
    (ofCategory.resolveCategory d value).outcome =
      (ofCategory.resolveCategory d other).outcome := by
  cases alike with
  | element named =>
    have same := sampleCategory_congr apart named
    rw [resolveCategory, resolveCategory, Run.outcome_bind, Run.outcome_bind]
    exact congrArg (· >>= _) same
  | plain other => exact absurd rfl other
  | same | elements | filterSet => rfl

/-- A filter that is no combination makes the same step of values that are alike, or fails alike. -/
theorem step_congr (alike : FilterValue.Alike d k.name value other) :
    (k.step d value).outcome = (k.step d other).outcome := by
  cases k with
  | ofClass =>
    have same : resolveClass .ofClass value = resolveClass .ofClass other := by
      rw [resolveClass, resolveClass, alike.classRef?]
    rw [step, step, same]
  | ofCategory =>
    rw [step, step, Run.outcome_bind, Run.outcome_bind, resolveCategory_congr apart alike]
  | isType | isNotType | isViewIndependent | isCurveDriven | parameterFilter | whereTest =>
    cases alike <;> rfl
  | family | ownerView | symbol | level | notLevel =>
    rw [step, step, Run.outcome_bind, Run.outcome_bind, element_congr apart alike]
  | exclude =>
    have same := alike.elementRefs? apart
    rw [step, step]
    cases first : value.elementRefs? <;> cases second : other.elementRefs? <;>
      simp_all [Run.outcome_map, ElementRef.outcome_resolveAll]
  | andCollector | orCollector => rfl

end FilterKind

theorem ScopeKey.select_congr {k : ScopeKey} {key : String} {value other : FilterValue}
    (alike : FilterValue.Alike d key value other) :
    (k.select d value).outcome = (k.select d other).outcome := by
  cases k with
  | view =>
    have same := alike.elementRef? apart
    rw [select, select]
    cases first : value.elementRef? <;> cases second : other.elementRef? <;>
      simp_all [Run.outcome_map, ElementRef.outcome_resolve]
  | elements | elementIds =>
    have same := alike.elementRefs? apart
    rw [select, select]
    cases first : value.elementRefs? <;> cases second : other.elementRefs? <;>
      simp_all [Run.outcome_map, ElementRef.outcome_resolveAll]

end References

section Entries

variable {d : Document}

mutual

theorem FilterValue.Alike.checkValue_eq {key : String} {value other : FilterValue} :
    FilterValue.Alike d key value other → FilterSet.checkValue value = FilterSet.checkValue other
  | .same | .element _ | .plain .. | .elements _ => rfl
  | .filterSet inside => inside.checkEntries_eq true

theorem EntriesAlike.checkEntries_eq {entries others : List (String × FilterValue)} :
    EntriesAlike d entries others → (nested : Bool) →
      FilterSet.checkEntries nested entries = FilterSet.checkEntries nested others
  | .nil, _ => rfl
  | .cons here later, nested => by
    rw [FilterSet.checkEntries, FilterSet.checkEntries, here.checkValue_eq,
      later.checkEntries_eq nested]

end

namespace EntriesAlike

variable {entries others : List (String × FilterValue)}

theorem get? (alike : EntriesAlike d entries others) (key : String) :
    Option.Rel (FilterValue.Alike d key) ((⟨entries⟩ : FilterSet).get? key)
      ((⟨others⟩ : FilterSet).get? key) := by
  induction entries generalizing others with
  | nil =>
    cases alike
    exact .none
  | cons entry rest ih =>
    cases alike with
    | @cons name _ _ _ _ here later =>
      by_cases same : name = key
      · subst same
        simpa [Entries.get?] using here
      · simpa [Entries.get?, same] using ih later

theorem filter (alike : EntriesAlike d entries others) (keep : String → Bool) :
    EntriesAlike d (entries.filter fun entry => keep entry.1)
      (others.filter fun entry => keep entry.1) := by
  induction entries generalizing others with
  | nil =>
    cases alike
    exact .nil
  | cons entry rest ih =>
    cases alike with
    | @cons name _ _ _ _ here later =>
      by_cases kept : keep name
      · simpa [kept] using EntriesAlike.cons here (ih later)
      · simpa [kept] using ih later

end EntriesAlike

namespace FilterSet

variable {c : Config} {f g : FilterSet} {scope : Scope}

def GivenAlike (d : Document) (given other : ScopeKey × FilterValue) : Prop :=
  given.1 = other.1 ∧ FilterValue.Alike d given.1.name given.2 other.2

theorem Alike.get? (alike : Alike d f g) (key : String) :
    Option.Rel (FilterValue.Alike d key) (f.get? key) (g.get? key) := EntriesAlike.get? alike key

theorem Alike.scopes (alike : Alike d f g) : List.Forall₂ (GivenAlike d) f.scopes g.scopes := by
  have each (keys : List ScopeKey) : List.Forall₂ (GivenAlike d)
      (keys.filterMap fun k => (f.get? k.name).map fun value => (k, value))
      (keys.filterMap fun k => (g.get? k.name).map fun value => (k, value)) := by
    induction keys with
    | nil => exact .nil
    | cons key more ih =>
      have here := alike.get? key.name
      rw [List.filterMap_cons, List.filterMap_cons]
      generalize f.get? key.name = first, g.get? key.name = second at here
      cases here with
      | none => exact ih
      | some related => exact .cons ⟨rfl, related⟩ ih
  exact each ScopeKey.all

theorem names_of_alike {given others : List (ScopeKey × FilterValue)}
    (each : List.Forall₂ (GivenAlike d) given others) :
    given.map (fun entry => entry.1.name) = others.map fun entry => entry.1.name := by
  induction each with
  | nil => rfl
  | cons here _ ih => rw [List.map_cons, List.map_cons, here.1, ih]

theorem Alike.withoutScopes (alike : Alike d f g) : Alike d f.withoutScopes g.withoutScopes := by
  rw [Alike, toList_withoutScopes, toList_withoutScopes]
  exact EntriesAlike.filter alike fun key => ScopeKey.all.all fun k => k.name != key

theorem planSteps_outcome_congr {planners others : Entries Planner}
    (same : ∀ k : FilterKind,
      (planners.get? k.name).map (fun planner => (planner k scope).outcome) =
        (others.get? k.name).map fun planner => (planner k scope).outcome)
    (kinds : List FilterKind) :
    (planSteps planners scope kinds).outcome = (planSteps others scope kinds).outcome := by
  induction kinds with
  | nil => rfl
  | cons k more ih =>
    have here := same k
    rw [planSteps, planSteps]
    cases first : planners.get? k.name <;> cases second : others.get? k.name <;>
      simp_all [Run.outcome_map]

section Queries

variable (apart : (d.elements.map Element.uniqueId).Nodup)

include apart

theorem Alike.resolveScope (alike : Alike d f g) :
    (f.resolveScope d c).outcome = (g.resolveScope d c).outcome := by
  have scopes := alike.scopes
  have count := scopes.length_eq
  have names := names_of_alike scopes
  simp only [FilterSet.resolveScope, Run.outcome_bind, Run.outcome_ofExcept]
  by_cases single : c.scopePrecedence ∨ f.scopes.length ≤ 1
  · rw [Config.chooseScope_ok_iff.mpr ⟨single, rfl⟩,
      Config.chooseScope_ok_iff.mpr ⟨count ▸ single, rfl⟩]
    generalize f.scopes = given, g.scopes = others at scopes
    cases scopes with
    | nil => rfl
    | @cons first second _ _ here _ =>
      obtain ⟨k, value⟩ := first
      obtain ⟨_, other⟩ := second
      obtain ⟨rfl, related⟩ := here
      change (some <$> k.select d value).outcome = (some <$> k.select d other).outcome
      rw [Run.outcome_map, Run.outcome_map, ScopeKey.select_congr apart related]
  · obtain ⟨strict, several⟩ := not_or.mp single
    have several : 1 < f.scopes.length := by omega
    rw [Config.chooseScope_ambiguous strict several,
      Config.chooseScope_ambiguous strict (count ▸ several), names]

/-- Values that are alike are planned alike if the sets that they may be are. -/
theorem planner_congr {k : FilterKind} {value other : FilterValue}
    (alike : FilterValue.Alike d k.name value other)
    (nested : ∀ h i : FilterSet, value = .filterSet h → Alike d h i →
      (planNested d c h ⟨planners d c h.toList⟩ scope).outcome =
        (planNested d c i ⟨planners d c i.toList⟩ scope).outcome) :
    (planner d c value k scope).outcome = (planner d c other k scope).outcome := by
  by_cases logical : k.tier = .logical
  · cases alike with
    | @filterSet _ entries others inside =>
      have same := nested ⟨entries⟩ ⟨others⟩ rfl inside
      cases k with
      | andCollector | orCollector =>
        simp only [planner, Run.outcome_map]
        exact congrArg _ same
      | _ => cases logical
    | same => rfl
    | element | plain | elements =>
      cases k with
      | andCollector | orCollector => rfl
      | _ => cases logical
  · rw [outcome_planner value scope logical, outcome_planner other scope logical,
      FilterKind.step_congr apart alike]

theorem Alike.plan (alike : Alike d f g) :
    (f.plan d c scope).outcome = (g.plan d c scope).outcome := by
  induction f using nested_induction generalizing g scope with
  | around f ih =>
    have nested (k : FilterKind) (h i : FilterSet) (below : f.nested? k = some h)
        (inside : Alike d h i) : (planNested d c h ⟨planners d c h.toList⟩ scope).outcome =
          (planNested d c i ⟨planners d c i.toList⟩ scope).outcome := by
      rw [planNested_eq, planNested_eq, Run.outcome_bind, Run.outcome_bind,
        inside.resolveScope apart]
      simp only [ih k h below inside]
    rw [FilterSet.plan, FilterSet.plan, Run.outcome_bind, Run.outcome_bind,
      planSteps_outcome_congr fun k => ?_]
    have here := alike.get? k.name
    rw [get?_planners_toList, get?_planners_toList, Option.map_map, Option.map_map]
    generalize g.get? k.name = second at here
    cases found : f.get? k.name with
    | none =>
      rw [found] at here
      cases here
      rfl
    | some value =>
      rw [found] at here
      cases here with
      | some related =>
        refine congrArg some (planner_congr apart related fun h i same inside => ?_)
        exact nested k h i (nested?_eq_some_iff.mpr (same ▸ found)) inside

theorem Alike.collect (alike : Alike d f g) :
    (f.collect d c scope).outcome = (g.collect d c scope).outcome := by
  have checked : f.validate = g.validate := EntriesAlike.checkEntries_eq alike false
  rw [FilterSet.collect, FilterSet.collect, checked]
  simp only [Run.outcome_bind, alike.plan apart]

end Queries

end FilterSet

end Entries

namespace Matches

/-- The forms in which a set names elements of the document do not count: a query ends in the same
scope and the same selection, or in the same error. -/
theorem ofFilters_alike (d : Document) (c : Config) (f g : FilterSet)
    (apart : (d.elements.map Element.uniqueId).Nodup) (alike : f.Alike d g) :
    (ofFilters d c f).outcome = (ofFilters d c g).outcome := by
  rw [ofFilters_eq, ofFilters_eq]
  simp only [Run.outcome_bind, alike.resolveScope apart, alike.withoutScopes.collect apart]

def onLevelOrNotes (level sample plan : FilterValue) (dropped : List ElementRef) : FilterSet := ⟨[
  ("level", level),
  ("of_category", sample),
  ("or_collector", .filterSet ⟨[
    ("exclude", .elements dropped),
    ("of_class", .text "TextNote"),
    ("view", plan)]⟩)]⟩

theorem onLevelOrNotes_alike :
    let d := Document.sample 0
    let u (n : Int64) : ElementRef := .uniqueId (.ofElementId ⟨n⟩)
    let f := onLevelOrNotes (.element (u 1)) (.element (.number 21)) (.element (.id ⟨11⟩)) [u 33]
    let g := onLevelOrNotes (.number 1) (.element (u 21)) (.number 11) [.id ⟨33⟩]
    (d.elements.map Element.uniqueId).Nodup ∧ f.Alike d g ∧
      (ofFilters d {} f).outcome = (ofFilters d {} g).outcome ∧
      (ofFilters d {} g).outcome = .ok ⟨.document, d, [⟨21⟩, ⟨22⟩, ⟨41⟩]⟩ := by
  intro d u f g
  have apart : (d.elements.map Element.uniqueId).Nodup := by decide +kernel
  have held (id : ElementId) {e : Element} (found : d.element? id = some e) : e ∈ d.elements :=
    (Document.element?_eq_some_iff.mp found).1
  have level : FilterValue.Alike d "level" (.element (u 1)) (.number 1) :=
    .plain (by decide) (held ⟨1⟩ rfl) rfl .uniqueId
  have sample : FilterValue.Alike d "of_category" (.element (.number 21)) (.element (u 21)) :=
    .element (.respelled (held ⟨21⟩ rfl) rfl .number .uniqueId)
  have plan : FilterValue.Alike d "view" (.element (.id ⟨11⟩)) (.number 11) :=
    .plain (by decide) (held ⟨11⟩ rfl) rfl .id
  have dropped : ElementRef.Alike d (u 33) (.id ⟨33⟩) :=
    .respelled (held ⟨33⟩ rfl) rfl .uniqueId .id
  have alike : f.Alike d g :=
    .cons level (.cons sample (.cons (.filterSet
      (.cons (.elements (.cons dropped .nil)) (.cons .same (.cons plan .nil)))) .nil))
  exact ⟨apart, alike, ofFilters_alike d {} f g apart alike, rfl⟩

end Matches

end Sieve
