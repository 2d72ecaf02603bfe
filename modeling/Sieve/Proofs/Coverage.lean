import Sieve.Proofs.Query
import Sieve.Proofs.Scan

/-!
No filter is dropped. Checking a set looks at its keys one after another, each before those nested
under it, and reports the first that has no place; the plan of a set without such a key has one step
for each of its filters, and so has every nested plan.
-/

namespace Sieve

namespace FilterSet

theorem ordered_empty : Throughout Entries.Ordered .empty :=
  .around Entries.empty_ordered fun _ _ member => nomatch member

/-- Sets that are built by insertion are in order at every depth. -/
theorem ordered_insert {f : FilterSet} (ordered : f.Throughout Entries.Ordered) (key : String)
    {value : FilterValue} (inside : ∀ g, value = .filterSet g → Throughout Entries.Ordered g) :
    Throughout Entries.Ordered (f.insert key value) := by
  refine .around (Entries.insert_ordered ordered.1 key value) fun k g member => ?_
  rcases Ascending.mem_of_mem_insert member with same | held
  · exact inside g (Prod.mk.inj same).2.symm
  · exact ordered.inside held

structure Mention where
  nested : Bool
  key : String

mutual

def valueMentions : FilterValue → List Mention
  | .filterSet ⟨entries⟩ => entriesMentions true entries
  | _ => []

def entriesMentions (nested : Bool) : List (String × FilterValue) → List Mention
  | [] => []
  | (key, value) :: rest => ⟨nested, key⟩ :: (valueMentions value ++ entriesMentions nested rest)

end

/-- All keys in and under a set, each right before those nested under it. -/
def mentions (f : FilterSet) : List Mention := entriesMentions false f.toList

namespace Mention

/-- Filters may be named anywhere, scopes in nested sets only. -/
def Known (m : Mention) : Prop :=
  (FilterKind.ofName? m.key).isSome ∨ m.nested ∧ (ScopeKey.ofName? m.key).isSome

inductive Offends : Mention → QueryError → Prop where
  | scope {key : String} (named : (ScopeKey.ofName? key).isSome) :
      Offends ⟨false, key⟩ (.malformed (.unresolvedScope key))
  | unknown {nested : Bool} {key : String} (noFilter : FilterKind.ofName? key = none)
      (noScope : ScopeKey.ofName? key = none) : Offends ⟨nested, key⟩ (.unknownFilter key)

def check (m : Mention) : Except QueryError Unit := checkKey m.nested m.key

theorem check_ok_iff {m : Mention} : m.check = .ok () ↔ m.Known := by
  obtain ⟨nested, key⟩ := m
  cases nested with
  | false => simp [check, Known, checkKey_false_ok_iff]
  | true => simp [check, Known, checkKey_true_ok_iff]

theorem check_error_iff {m : Mention} {e : QueryError} : m.check = .error e ↔ m.Offends e := by
  obtain ⟨nested, key⟩ := m
  constructor
  · intro failed
    rw [check, checkKey] at failed
    split at failed
    · next scope =>
      cases nested with
      | false =>
        obtain rfl := Except.error.inj failed
        exact .scope scope
      | true => cases failed
    · next noScope =>
      split at failed
      · cases failed
      · next noFilter =>
        obtain rfl := Except.error.inj failed
        exact .unknown (by simpa using noFilter) (by simpa using noScope)
  · rintro (⟨scope⟩ | ⟨noFilter, noScope⟩)
    · simp [check, checkKey, scope]
    · simp [check, checkKey, noFilter, noScope]

end Mention

mutual

theorem checkValue_eq (value : FilterValue) :
    checkValue value = ((valueMentions value).mapM Mention.check).map fun _ => () := by
  match value with
  | .filterSet ⟨entries⟩ => exact checkEntries_eq true entries
  | .flag _ | .number _ | .text _ | .elementClass _ | .category _ | .element _ | .elements _
  | .parameter _ | .test _ => rfl

/-- Checking goes through the mentions one by one. -/
theorem checkEntries_eq (nested : Bool) (entries : List (String × FilterValue)) :
    checkEntries nested entries =
      ((entriesMentions nested entries).mapM Mention.check).map fun _ => () := by
  match entries with
  | [] => rfl
  | (key, value) :: rest =>
    rw [checkEntries, checkValue_eq value, checkEntries_eq nested rest, entriesMentions,
      List.mapM_cons, List.mapM_append]
    change (Mention.check ⟨nested, key⟩ >>= _) = _
    cases Mention.check ⟨nested, key⟩ with
    | error e => rfl
    | ok _ =>
      cases (valueMentions value).mapM Mention.check with
      | error e => rfl
      | ok _ => cases (entriesMentions nested rest).mapM Mention.check <;> rfl

end

def FirstOffence (mentions : List Mention) (e : QueryError) : Prop :=
  ∃ before m after, mentions = before ++ m :: after ∧ (∀ earlier ∈ before, earlier.Known) ∧
    m.Offends e

variable {d : Document} {c : Config} {f : FilterSet} {scope : Scope}

theorem validate_error_iff {e : QueryError} :
    f.validate = .error e ↔ FirstOffence f.mentions e := by
  have scan : f.validate = .error e ↔ f.mentions.mapM Mention.check = .error e := by
    rw [validate, checkEntries_eq, mentions]
    cases (entriesMentions false f.toList).mapM Mention.check <;> simp [Except.map]
  have checked (m : Mention) : (∃ done, m.check = .ok done) ↔ m.Known := by
    rw [← Mention.check_ok_iff]
    constructor
    · rintro ⟨_, passed⟩
      exact passed
    · intro passed
      exact ⟨(), passed⟩
  simp only [scan, Scan.mapM_error_iff, checked, Mention.check_error_iff, FirstOffence]

theorem validate_ok_iff :
    f.validate = .ok () ↔ (∀ key ∈ f.keys, (FilterKind.ofName? key).isSome) ∧
      ∀ g, f.Carries g → ∀ key ∈ g.keys,
        (FilterKind.ofName? key).isSome ∨ (ScopeKey.ofName? key).isSome := by
  rw [validate, FilterSet.check_ok_iff]
  simp only [checkKey_false_ok_iff, checkKey_true_ok_iff]

end FilterSet

def FilterKind.Before (a b : FilterKind) : Prop :=
  a.tier.rank < b.tier.rank ∨ a.tier = b.tier ∧ all.idxOf a < all.idxOf b

def Plan.kinds : Plan → List FilterKind
  | .over _ steps => steps.map Prod.fst

mutual

/-- The plan has one step for each key of the set but its scope keys, in order, and the plans nested
in its steps are such plans of the sets nested under the keys. -/
inductive Plan.Covers : Plan → FilterSet → Prop where
  | over {scope : Scope} {steps : List (FilterKind × Step)} {f : FilterSet}
      (complete : ((steps.map Prod.fst).map FilterKind.name).Perm
        (f.keys.filter fun key => (ScopeKey.ofName? key).isNone))
      (order : (steps.map Prod.fst).Pairwise FilterKind.Before)
      (serve : ∀ k step value, (k, step) ∈ steps → f.get? k.name = some value →
        Step.Serves k step value) :
      Plan.Covers (.over scope steps) f

inductive Step.Serves : FilterKind → Step → FilterValue → Prop where
  | single {k : FilterKind} {step : Step} {value : FilterValue} (leaf : k.tier ≠ .logical)
      (noPlan : step.nested? = none) (noSet : value.filterSet? = none) : Step.Serves k step value
  | and {p : Plan} {g : FilterSet} (covers : Plan.Covers p g) :
      Step.Serves .andCollector (.intersect p) (.filterSet g)
  | or {p : Plan} {g : FilterSet} (covers : Plan.Covers p g) :
      Step.Serves .orCollector (.union p) (.filterSet g)

end

namespace FilterSet

variable {d : Document} {c : Config} {f : FilterSet} {scope : Scope}

theorem get?_isSome_iff {key : String} : (f.get? key).isSome ↔ key ∈ f.keys := by
  rw [Entries.get?, Option.isSome_map, List.find?_isSome, Entries.keys, List.mem_map]
  simp only [decide_eq_true_eq]

theorem keys_nodup (ordered : f.Ordered) : f.keys.Nodup := by
  have ascending : f.keys.Pairwise (· < ·) := List.pairwise_map.mpr ordered
  exact ascending.imp fun below => by
    rintro rfl
    exact Std.Irrefl.irrefl _ below

/-- Every filter of the registry is tried, so none of the set's keys is left over. -/
theorem names_perm (ordered : f.Ordered) (known : f.Named) :
    ((FilterKind.byTier.filter fun k => (f.get? k.name).isSome).map FilterKind.name).Perm
      (f.keys.filter fun key => (ScopeKey.ofName? key).isNone) := by
  have names : (FilterKind.byTier.map FilterKind.name).Nodup := by decide
  have once : ((FilterKind.byTier.filter fun k => (f.get? k.name).isSome).map
      FilterKind.name).Nodup := names.sublist (List.filter_sublist.map _)
  refine (List.perm_ext_iff_of_nodup once ((keys_nodup ordered).filter _)).mpr fun key => ?_
  simp only [List.mem_map, List.mem_filter, get?_isSome_iff]
  constructor
  · rintro ⟨k, ⟨_, held⟩, rfl⟩
    exact ⟨held, by rw [ScopeKey.ofName?_filter_name]; rfl⟩
  · rintro ⟨held, noScope⟩
    rcases known key held with filter | scope
    · obtain ⟨k, found⟩ := Option.isSome_iff_exists.mp filter
      have named : k.name = key := by simpa using List.find?_some found
      exact ⟨k, ⟨FilterKind.mem_byTier k, named ▸ held⟩, named⟩
    · rw [Option.isNone_iff_eq_none] at noScope
      simp [noScope] at scope

/-- Steps serve their filters if the plans nested in them cover what is nested in the set. -/
theorem planner_serves {k : FilterKind} {value : FilterValue} {step : Step}
    (planned : (planner d c value k scope).outcome = .ok step)
    (covers : ∀ (g : FilterSet) p, value = .filterSet g →
      (g.plan d c (g.scopeOver d scope)).outcome = .ok p → p.Covers g) : Step.Serves k step value := by
  by_cases logical : k.tier = .logical
  · obtain ⟨g, nested, rfl, made, rfl⟩ := (planner_combination_ok_iff logical).mp planned
    have covered := covers g nested rfl (planNested_ok_iff.mp made).2
    cases k with
    | andCollector => exact .and covered
    | orCollector => exact .or covered
    | _ => cases logical
  · have noSet : value.filterSet? = none := by
      cases value with
      | filterSet g => cases k <;> first | exact absurd rfl logical | cases planned
      | _ => rfl
    rw [outcome_planner value scope logical] at planned
    exact .single logical (FilterKind.nested?_of_step planned) noSet

theorem plan_covers {p : Plan} (ordered : f.Throughout Entries.Ordered)
    (known : f.Throughout Named) (planned : (f.plan d c scope).outcome = .ok p) : p.Covers f := by
  induction f using nested_induction generalizing scope p with
  | around f ih =>
    obtain ⟨steps, filters, rfl⟩ := plan_ok_iff.mp planned
    have kinds := planSteps_kinds filters
    refine .over ?_ ?_ ?_
    · rw [kinds]
      exact names_perm ordered.1 known.1
    · have byTier : FilterKind.byTier.Pairwise FilterKind.Before := by
        unfold FilterKind.Before
        decide
      rw [kinds]
      exact byTier.filter _
    · intro k step value member found
      obtain ⟨other, foundToo, single⟩ := planner_of_mem filters member
      obtain rfl := Option.some.inj (found.symm.trans foundToo)
      refine planner_serves single fun g p same made => ?_
      subst same
      have entry := mem_of_get? found
      exact ih k g (nested?_eq_some_iff.mpr found) (ordered.inside entry) (known.inside entry) made

/-- Checking accepts exactly the sets whose keys all have a place, and reports the first that has
none; what it accepts and can be planned is planned in full. -/
theorem no_filter_dropped (d : Document) (c : Config) (f : FilterSet) (scope : Scope)
    (ordered : f.Throughout Entries.Ordered) :
    (f.validate = .ok () ↔ (∀ key ∈ f.keys, (FilterKind.ofName? key).isSome) ∧
      ∀ g, f.Carries g → ∀ key ∈ g.keys,
        (FilterKind.ofName? key).isSome ∨ (ScopeKey.ofName? key).isSome) ∧
    (∀ e, f.validate = .error e ↔ FirstOffence f.mentions e) ∧
    ∀ p, f.validate = .ok () → (f.plan d c scope).outcome = .ok p →
      (p.kinds.map FilterKind.name).Perm f.keys ∧ p.Covers f := by
  refine ⟨validate_ok_iff, fun e => validate_error_iff, fun p valid planned => ?_⟩
  obtain ⟨filters, nested⟩ := validate_ok_iff.mp valid
  have covers : p.Covers f :=
    plan_covers ordered ⟨fun key member => .inl (filters key member), nested⟩ planned
  refine ⟨?_, covers⟩
  obtain ⟨complete, _, _⟩ := covers
  have noScope : f.keys.filter (fun key => (ScopeKey.ofName? key).isNone) = f.keys := by
    refine List.filter_eq_self.mpr fun key member => ?_
    obtain ⟨k, found⟩ := Option.isSome_iff_exists.mp (filters key member)
    have named : k.name = key := by simpa using List.find?_some found
    rw [← named, ScopeKey.ofName?_filter_name]
    rfl
  rwa [noScope] at complete

def lateWallsOrNotesPlan : Plan :=
  .over .document [
    (.ofClass, .keep (.ofClass .wall)),
    (.whereTest, .test fun e => e.id != ⟨21⟩),
    (.orCollector, .union (.over (.view ⟨11⟩) [
      (.ofCategory, .keep (.ofCategory .textNotes)),
      (.whereTest, .test fun e => !e.isType)]))]

theorem lateWallsOrNotes_covered :
    let f := Matches.lateWallsOrNotes
    Throughout Entries.Ordered f ∧ f.validate = .ok () ∧
    (f.plan (.sample 0) {} .document).outcome = .ok lateWallsOrNotesPlan ∧
    (lateWallsOrNotesPlan.kinds.map FilterKind.name).Perm f.keys ∧
    lateWallsOrNotesPlan.Covers f := by
  have walls : Throughout Entries.Ordered
      (whereTest (ofClass .empty (.token .wall)) fun e => e.id != ⟨21⟩) :=
    ordered_insert (ordered_insert ordered_empty _ (by nofun)) _ (by nofun)
  have notes : Throughout Entries.Ordered
      (whereTest (ofCategory (view .empty (.number 11)) (.token .textNotes)) fun e => !e.isType) :=
    ordered_insert (ordered_insert (ordered_insert ordered_empty _ (by nofun)) _ (by nofun)) _
      (by nofun)
  have ordered : Throughout Entries.Ordered Matches.lateWallsOrNotes :=
    ordered_insert walls _ fun _ same => FilterValue.filterSet.inj same ▸ notes
  have dropped := no_filter_dropped (.sample 0) {} Matches.lateWallsOrNotes .document ordered
  exact ⟨ordered, rfl, rfl, dropped.2.2 _ rfl rfl⟩

end FilterSet

end Sieve
