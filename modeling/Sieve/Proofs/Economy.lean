import Sieve.Proofs.Query

/-!
The work of a plan against that of its steps in other orders: how many elements are pulled. Only the
test pulls any, and of those that meet the filters before it. In the planned order these are all
native filters but not the exclusion, which is of the same tier and stands behind the test.
-/

namespace Sieve

/-- How many elements are pulled where the steps are carried out in this order. -/
def materialized (d : Document) (scope : Scope) (order : List (FilterKind × Step)) : Nat :=
  ((Plan.over scope order).run d).pulls

def TestFirst (order : List (FilterKind × Step)) : Prop :=
  order.Pairwise fun first later => ¬ (first.1 = .exclude ∧ later.1 = .whereTest)

/-- A stricter property that counts as many is no stricter. -/
theorem forall_of_countP_le {α : Type} {p q : α → Bool} {xs : List α}
    (stricter : ∀ x ∈ xs, q x → p x) (count : xs.countP p ≤ xs.countP q) :
    ∀ x ∈ xs, p x → q x := by
  have inner : (xs.filter p).countP q = xs.countP q := by
    rw [List.countP_filter]
    refine List.countP_congr fun x member => ?_
    have implied := stricter x member
    simp_all
  have all : (xs.filter p).countP q = (xs.filter p).length := by
    refine Nat.le_antisymm List.countP_le_length ?_
    rw [inner, ← List.countP_eq_length_filter]
    exact count
  exact fun x member holds =>
    List.countP_eq_length.mp all x (List.mem_filter.mpr ⟨member, holds⟩)

theorem TestFirst.exclude_late {before after : List (FilterKind × Step)} {step : Step}
    (testFirst : TestFirst (before ++ (.whereTest, step) :: after)) :
    FilterKind.exclude ∉ before.map Prod.fst := by
  intro member
  obtain ⟨entry, early, excludes⟩ := List.mem_map.mp member
  have apart := (List.pairwise_append.mp testFirst).2.2 entry early _ List.mem_cons_self
  exact apart ⟨excludes, rfl⟩

namespace FilterSet

/-- The step is that of one of the set's filters, and no combination. -/
def Plans (d : Document) (f : FilterSet) (entry : FilterKind × Step) : Prop :=
  ∃ value, f.get? entry.1.name = some value ∧ (entry.1.step d value).outcome = .ok entry.2

variable {d : Document} {c : Config} {f : FilterSet} {scope : Scope}
  {steps order before after : List (FilterKind × Step)} {entry : FilterKind × Step} {e : Element}

namespace Plans

theorem leaf (planned : f.Plans d entry) : entry.1.tier ≠ .logical := by
  obtain ⟨k, step⟩ := entry
  obtain ⟨value, _, made⟩ := planned
  intro logical
  cases k
  case andCollector | orCollector => cases made
  all_goals cases logical

theorem plain (planned : f.Plans d entry) (other : entry.1 ≠ .whereTest) :
    entry.1 ∈ FilterKind.native ∨ entry.1 = .exclude := by
  have leaf := planned.leaf
  revert leaf other
  cases entry.1 <;> decide

/-- Every step but the test narrows, by the filter that it is planned for. -/
theorem narrows (planned : f.Plans d entry)
    (plain : entry.1 ∈ FilterKind.native ∨ entry.1 = .exclude) :
    entry.2.Narrows d (f.meets d [entry.1]) := by
  obtain ⟨value, found, made⟩ := planned
  exact narrows_of_step found plain made

theorem test {step : Step} (planned : f.Plans d (.whereTest, step)) :
    ∃ t, f.test? = some t ∧ step = .test t := by
  obtain ⟨value, found, made⟩ := planned
  obtain ⟨t, given, same⟩ := FilterKind.step_whereTest_ok_iff.mp made
  exact ⟨t, by simp [test?, found, given], same.symm⟩

end Plans

structure Arranges (d : Document) (f : FilterSet) (order : List (FilterKind × Step)) : Prop where
  plans : ∀ entry ∈ order, f.Plans d entry
  once : (order.map Prod.fst).Nodup
  complete : ∀ k, (f.get? k.name).isSome → k ∈ order.map Prod.fst

namespace Arranges

/-- There is one test in an order at most. -/
theorem plain_around {step : Step} (arranged : f.Arranges d order)
    (split : order = before ++ (.whereTest, step) :: after) :
    ∀ entry ∈ before ++ after,
      f.Plans d entry ∧ (entry.1 ∈ FilterKind.native ∨ entry.1 = .exclude) := by
  subst split
  have once := arranged.once
  rw [List.map_append, List.map_cons, List.nodup_middle, List.nodup_cons, ← List.map_append] at once
  intro entry member
  have planned : f.Plans d entry := by
    rcases List.mem_append.mp member with early | late
    · exact arranged.plans entry (List.mem_append_left _ early)
    · exact arranged.plans entry (List.mem_append_right _ (List.mem_cons_of_mem _ late))
  exact ⟨planned, planned.plain fun same => once.1 (List.mem_map.mpr ⟨entry, member, same⟩)⟩

theorem kind_before {step : Step} (arranged : f.Arranges d order)
    (split : order = before ++ (.whereTest, step) :: after) {k : FilterKind}
    (member : k ∈ before.map Prod.fst) : k ∈ FilterKind.native ∨ k = .exclude := by
  obtain ⟨entry, early, rfl⟩ := List.mem_map.mp member
  exact (arranged.plain_around split entry (List.mem_append_left _ early)).2

/-- The test pulls what meets the filters before it, and no other step pulls anything. -/
theorem materialized_split {step : Step} (arranged : f.Arranges d order)
    (split : order = before ++ (.whereTest, step) :: after) :
    materialized d scope order =
      if d.opens scope then
        d.elements.countP fun e => scope.holds e && f.meets d (before.map Prod.fst) e
      else 0 := by
  have narrow : ∀ entry ∈ before ++ after, entry.2.Narrows d (f.meets d [entry.1]) := by
    intro entry member
    obtain ⟨planned, plain⟩ := arranged.plain_around split entry member
    exact planned.narrows plain
  subst split
  obtain ⟨t, _, rfl⟩ := (arranged.plans (.whereTest, step) (by simp)).test
  by_cases opens : d.opens scope
  · have front := runSteps_narrow (fun entry member => narrow entry (List.mem_append_left _ member))
      scope.holds
    have tested := Selection.keepPassing_select (d := d)
      (p := fun e => scope.holds e && f.meets d (before.map Prod.fst) e) t
    have back := runSteps_narrow (fun entry member => narrow entry (List.mem_append_right _ member))
      fun e => (scope.holds e && f.meets d (before.map Prod.fst) e) && t e
    have did := front.bind (g := fun s => s.keepPassing t >>= runSteps d after) (tested.bind back)
    have steps : (runSteps d (before ++ (.whereTest, .test t) :: after) (d.select scope.holds)) =
        runSteps d before (d.select scope.holds) >>= fun s =>
          s.keepPassing t >>= runSteps d after := by
      rw [runSteps_append]
      rfl
    rw [← steps] at did
    rw [materialized, (Plan.run_open opens did).pulls_eq, if_pos opens]
    simp [List.countP_eq_length_filter]
  · rw [materialized, (Plan.run_closed opens).pulls_eq, if_neg opens]
    rfl

theorem perm (arranged : f.Arranges d steps) (same : order.Perm steps) : f.Arranges d order where
  plans := fun entry member => arranged.plans entry (same.mem_iff.mp member)
  once := (same.map Prod.fst).nodup_iff.mpr arranged.once
  complete := fun k given => (same.map Prod.fst).mem_iff.mpr (arranged.complete k given)

/-- A set with a test has it at some place of the order. -/
theorem exists_split (arranged : f.Arranges d order) {t : ElementTest} (tests : f.test? = some t) :
    ∃ before step after, order = before ++ (.whereTest, step) :: after := by
  obtain ⟨value, found, _⟩ := Option.bind_eq_some_iff.mp tests
  have given : (f.get? FilterKind.whereTest.name).isSome := by simp [found]
  obtain ⟨⟨_, step⟩, member, rfl⟩ := List.mem_map.mp (arranged.complete .whereTest given)
  obtain ⟨before, after, split⟩ := List.append_of_mem member
  exact ⟨before, step, after, split⟩

end Arranges

def Flat (f : FilterSet) : Prop := ∀ k, f.nested? k = none

theorem arranges_of_plan (flat : f.Flat)
    (planned : (f.plan d c scope).outcome = .ok (.over scope steps)) : f.Arranges d steps := by
  obtain ⟨_, filters, same⟩ := plan_ok_iff.mp planned
  obtain ⟨-, rfl⟩ := Plan.over.inj same
  have kinds := planSteps_kinds filters
  refine ⟨?_, ?_, fun k given => ?_⟩
  · rintro ⟨k, step⟩ member
    obtain ⟨value, found, made⟩ := planner_of_mem filters member
    refine ⟨value, found, ?_⟩
    by_cases logical : k.tier = .logical
    · obtain ⟨g, _, rfl, _⟩ := (planner_combination_ok_iff logical).mp made
      have none := flat k
      rw [nested?_eq_some_iff.mpr found] at none
      cases none
    · exact outcome_planner value scope logical ▸ made
  · have byTier : FilterKind.byTier.Nodup := by decide
    exact kinds ▸ byTier.filter _
  · exact kinds ▸ List.mem_filter.mpr ⟨FilterKind.mem_byTier k, given⟩

/-- In the planned order all native filters stand before the test, and only they. -/
theorem materialized_planned (flat : f.Flat)
    (planned : (f.plan d c scope).outcome = .ok (.over scope steps)) :
    materialized d scope steps =
      if d.opens scope then
        f.test?.elim 0 fun _ =>
          d.elements.countP fun e => scope.holds e && f.meets d FilterKind.native e
      else 0 := by
  have visits : f.visits d scope = [(f, scope)] := by
    rw [visits_eq, nestedVisits, nestedVisits, flat, flat]
    rfl
  have toured := run_plan planned
  rw [visits] at toured
  rw [materialized, toured.pulls_eq]
  cases opens : d.opens scope with
  | false => simp [Visits.untilClosed, Visits.trials, opens]
  | true =>
    cases tests : f.test? <;>
      simp [Visits.untilClosed, Visits.trials, opens, ownTrials, tests,
        List.countP_eq_length_filter]

/-- The planned order pulls no more than one whose test comes after native filters only, or after
others that take nothing from it. -/
theorem materialized_le (flat : f.Flat)
    (planned : (f.plan d c scope).outcome = .ok (.over scope steps)) (arranged : f.Arranges d order)
    (within : ∀ before step after, order = before ++ (.whereTest, step) :: after →
      ∀ e ∈ d.elements, scope.holds e → f.meets d FilterKind.native e →
        f.meets d (before.map Prod.fst) e) :
    materialized d scope steps ≤ materialized d scope order := by
  rw [materialized_planned flat planned]
  by_cases opens : d.opens scope
  · cases tests : f.test? with
    | none => simp
    | some t =>
      obtain ⟨before, step, after, split⟩ := arranged.exists_split tests
      rw [arranged.materialized_split split, if_pos opens, if_pos opens]
      refine List.countP_mono_left fun e member counted => ?_
      obtain ⟨holds, meets⟩ := Bool.and_eq_true_iff.mp counted
      exact Bool.and_eq_true_iff.mpr ⟨holds, within before step after split e member holds meets⟩
  · rw [if_neg opens]
    exact Nat.zero_le _

structure Economical (d : Document) (f : FilterSet) (scope : Scope)
    (steps : List (FilterKind × Step)) : Prop where
  least : ∀ order : List (FilterKind × Step), order.Perm steps → TestFirst order →
    materialized d scope steps ≤ materialized d scope order
  least_iff : (∀ order : List (FilterKind × Step), order.Perm steps →
      materialized d scope steps ≤ materialized d scope order) ↔
    f.test? = none ∨ ¬ d.opens scope ∨
      ∀ e ∈ d.elements, scope.holds e → f.meets d FilterKind.native e → f.meets d [.exclude] e

/-- With the test last, nothing is pulled that any other filter takes out. -/
theorem exists_testLast (arranged : f.Arranges d steps) {t : ElementTest}
    (tests : f.test? = some t) {scope : Scope} (opens : d.opens scope) :
    ∃ order kinds, order.Perm steps ∧
      materialized d scope order =
        d.elements.countP (fun e => scope.holds e && f.meets d kinds e) ∧
      ∀ k, k ≠ .whereTest → (f.get? k.name).isSome → k ∈ kinds := by
  obtain ⟨before, step, after, rfl⟩ := arranged.exists_split tests
  have same : ((before ++ after) ++ [(FilterKind.whereTest, step)]).Perm
      (before ++ (FilterKind.whereTest, step) :: after) :=
    (List.perm_append_singleton _ _).trans List.perm_middle.symm
  refine ⟨_, (before ++ after).map Prod.fst, same, ?_, fun k other given => ?_⟩
  · rw [(arranged.perm same).materialized_split rfl, if_pos opens]
  · have member := arranged.complete k given
    simp only [List.map_append, List.map_cons, List.mem_append, List.mem_cons] at member ⊢
    rcases member with early | same | late
    · exact .inl early
    · exact absurd same other
    · exact .inr late

/-- The planned order is the best of all unless the exclusion spares the test some elements. -/
theorem spared_of_least (flat : f.Flat)
    (planned : (f.plan d c scope).outcome = .ok (.over scope steps)) {t : ElementTest}
    (tests : f.test? = some t) (opens : d.opens scope)
    (best : ∀ order : List (FilterKind × Step), order.Perm steps →
      materialized d scope steps ≤ materialized d scope order) :
    ∀ e ∈ d.elements, scope.holds e → f.meets d FilterKind.native e →
      f.meets d [.exclude] e := by
  obtain ⟨order, kinds, same, cost, rest⟩ :=
    exists_testLast (arranges_of_plan flat planned) tests opens
  have fewer := best order same
  rw [materialized_planned flat planned, cost, if_pos opens, tests, Option.elim_some] at fewer
  have native : ∀ k ∈ FilterKind.native, k ≠ .whereTest := by decide
  have stricter : ∀ e ∈ d.elements, (scope.holds e && f.meets d kinds e) →
      (scope.holds e && f.meets d FilterKind.native e) := by
    intro e _ counted
    obtain ⟨holds, meets⟩ := Bool.and_eq_true_iff.mp counted
    exact Bool.and_eq_true_iff.mpr
      ⟨holds, meets_of_named (fun k member => rest k (native k member)) meets⟩
  intro e member holds meets
  have counted := forall_of_countP_le stricter fewer e member
    (Bool.and_eq_true_iff.mpr ⟨holds, meets⟩)
  refine meets_of_named (fun k member => rest k ?_) (Bool.and_eq_true_iff.mp counted).2
  rw [List.mem_singleton.mp member]
  decide

theorem economical_of_plan (flat : f.Flat)
    (planned : (f.plan d c scope).outcome = .ok (.over scope steps)) :
    f.Economical d scope steps := by
  have arranged := arranges_of_plan flat planned
  refine ⟨fun order same testFirst => ?_, ⟨fun best => ?_, fun spared order same => ?_⟩⟩
  · refine materialized_le flat planned (arranged.perm same) ?_
    rintro before step after rfl e _ _ meets
    refine meets_of_named (fun k member _ => ?_) meets
    refine ((arranged.perm same).kind_before rfl member).resolve_right ?_
    rintro rfl
    exact testFirst.exclude_late member
  · cases tests : f.test? with
    | none => exact .inl rfl
    | some t =>
      by_cases opens : d.opens scope
      · exact .inr (.inr (spared_of_least flat planned tests opens best))
      · exact .inr (.inl opens)
  · rcases spared with untested | closed | spared
    · simp [materialized_planned flat planned, untested]
    · simp [materialized_planned flat planned, closed]
    · refine materialized_le flat planned (arranged.perm same) ?_
      rintro before step after rfl e inside holds meets
      have both : f.meets d (FilterKind.native ++ [.exclude]) e := by
        have excluded := spared e inside holds meets
        simp_all [FilterSet.meets]
      refine meets_of_named (fun k member _ => ?_) both
      rcases (arranged.perm same).kind_before rfl member with native | exclude
      · exact List.mem_append_left _ native
      · exact List.mem_append_right _ (List.mem_singleton.mpr exclude)

/-- A query by a flat set pulls no more elements than its steps would in any other order that has
the test before the exclusion, as the order of the registry has; and in any other order at all,
exactly if the exclusion takes out nothing that would be put to the test. -/
theorem tier_order_economical (d : Document) (c : Config) (f : FilterSet) (scope : Scope)
    (steps : List (FilterKind × Step)) (valid : f.validate = .ok ())
    (planned : (f.plan d c scope).outcome = .ok (.over scope steps)) (flat : f.Flat) :
    (f.collect d c scope).pulls = materialized d scope steps ∧ f.Economical d scope steps := by
  refine ⟨?_, economical_of_plan flat planned⟩
  rw [materialized, (collect_planned valid planned).pulls_eq, (run_plan planned).pulls_eq]

def lateWallsNoDoor : FilterSet :=
  exclude (whereTest (ofClass .empty (.token .wall)) fun e => e.id != ⟨21⟩) [⟨33⟩]

def lateWallsNoDoorSteps : List (FilterKind × Step) :=
  [(.ofClass, .keep (.ofClass .wall)), (.whereTest, .test fun e => e.id != ⟨21⟩),
    (.exclude, .exclude [⟨33⟩])]

theorem lateWallsNoDoor_economical :
    lateWallsNoDoor.validate = .ok () ∧
    (lateWallsNoDoor.plan (.sample 0) {} .document).outcome =
      .ok (.over .document lateWallsNoDoorSteps) ∧
    lateWallsNoDoor.Flat ∧
    (lateWallsNoDoor.collect (.sample 0) {} .document).pulls = 3 ∧
    ∀ order : List (FilterKind × Step), order.Perm lateWallsNoDoorSteps → TestFirst order →
      3 ≤ materialized (.sample 0) .document order := by
  have flat : lateWallsNoDoor.Flat := by
    intro k
    cases k <;> rfl
  have ⟨_, economical⟩ := tier_order_economical (.sample 0) {} lateWallsNoDoor .document
    lateWallsNoDoorSteps rfl rfl flat
  exact ⟨rfl, rfl, flat, rfl, economical.least⟩

/-- The planned order tests the element that is excluded after it; the other one spares it. -/
theorem testThenExclude_not_least :
    let d := Document.ofList 0 [.new ⟨1⟩ .wall]
    let f := exclude (whereTest .empty fun _ => true) [⟨1⟩]
    let test : FilterKind × Step := (.whereTest, .test fun _ => true)
    let out : FilterKind × Step := (.exclude, .exclude [⟨1⟩])
    (f.plan d {} .document).outcome = .ok (.over .document [test, out]) ∧ f.Flat ∧
      [out, test].Perm [test, out] ∧ (f.collect d {} .document).pulls = 1 ∧
      materialized d .document [test, out] = 1 ∧ materialized d .document [out, test] = 0 := by
  refine ⟨rfl, ?_, .swap _ _ _, rfl, rfl, rfl⟩
  intro k
  cases k <;> rfl

end FilterSet

end Sieve
