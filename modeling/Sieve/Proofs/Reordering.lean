import Sieve.Proofs.Coverage

/-!
Steps in another order. Each step but a union keeps, of whatever is selected, what has a property of
its own, and opens nested scopes or not whatever is selected; so these steps commute. Unions stay
last.
-/

namespace Sieve

def UnionLast (steps : List (FilterKind × Step)) : Prop :=
  steps.Pairwise fun entry _ => entry.1 ≠ .orCollector

mutual

/-- The same plan with its steps, and those of the plans nested in it, in some other order. -/
inductive Plan.Reordered : Plan → Plan → Prop where
  | permuted {scope : Scope} {steps inside moved : List (FilterKind × Step)}
      (nested : EachReordered steps inside) (order : inside.Perm moved)
      (unionLast : UnionLast moved) :
      Plan.Reordered (.over scope steps) (.over scope moved)

inductive Step.Reordered : Step → Step → Prop where
  | same {step : Step} : Step.Reordered step step
  | intersect {p q : Plan} (nested : Plan.Reordered p q) :
      Step.Reordered (.intersect p) (.intersect q)
  | union {p q : Plan} (nested : Plan.Reordered p q) : Step.Reordered (.union p) (.union q)

inductive EachReordered : List (FilterKind × Step) → List (FilterKind × Step) → Prop where
  | nil : EachReordered [] []
  | cons {k : FilterKind} {step other : Step} {rest more : List (FilterKind × Step)}
      (here : Step.Reordered step other) (later : EachReordered rest more) :
      EachReordered ((k, step) :: rest) ((k, other) :: more)

end

namespace Run

variable {α β : Type}

/-- What a run ends in, if it does not fail. -/
def result? (x : Run α) : Option α := x.outcome.toOption

theorem result?_bind (x : Run α) (f : α → Run β) :
    (x >>= f).result? = x.result?.bind fun a => (f a).result? := by
  rw [result?, result?, outcome_bind]
  cases x.outcome <;> rfl

theorem result?_eq_some_iff {x : Run α} {a : α} : x.result? = some a ↔ x.outcome = .ok a :=
  toOption_eq_some_iff

theorem Tours.result? {d : Document} {x : Run α} {visits : Visits} {a : α}
    (toured : x.Tours d visits a) : x.result? = if visits.allOpen d then some a else none :=
  toured.result

end Run

/-- Of every selection the step keeps the elements with this property; without one it always
fails. -/
def Step.Keeps (d : Document) (step : Step) (q? : Option (Element → Bool)) : Prop :=
  ∀ p, (step.run d (d.select p)).result? = q?.map fun q => d.select fun e => p e && q e

variable {d : Document}

theorem runSteps_cons (d : Document) (k : FilterKind) (step : Step)
    (rest : List (FilterKind × Step)) (s : Selection) :
    (runSteps d ((k, step) :: rest) s).result? =
      (step.run d s).result?.bind fun narrowed => (runSteps d rest narrowed).result? := by
  rw [runSteps, Run.result?_bind]

/-- Two steps that keep by properties of their own may change places. -/
theorem runSteps_swap {first second : FilterKind × Step} {q r : Option (Element → Bool)}
    (keeps : first.2.Keeps d q) (keepsToo : second.2.Keeps d r)
    (rest : List (FilterKind × Step)) (p : Element → Bool) :
    (runSteps d (first :: second :: rest) (d.select p)).result? =
      (runSteps d (second :: first :: rest) (d.select p)).result? := by
  obtain ⟨k, a⟩ := first
  obtain ⟨l, b⟩ := second
  simp only [runSteps_cons]
  rw [keeps p, keepsToo p]
  cases q with
  | none =>
    cases r with
    | none => rfl
    | some r => simp [keeps (fun e => p e && r e)]
  | some q =>
    cases r with
    | none => simp [keepsToo (fun e => p e && q e)]
    | some r =>
      have both : (fun e => (p e && q e) && r e) = fun e => (p e && r e) && q e := by
        funext e
        rw [Bool.and_assoc, Bool.and_comm (q e), Bool.and_assoc]
      simp [keeps (fun e => p e && r e), keepsToo (fun e => p e && q e), both]

theorem runSteps_perm {steps moved : List (FilterKind × Step)} (order : steps.Perm moved)
    (keep : ∀ entry ∈ steps, ∃ q, entry.2.Keeps d q) (p : Element → Bool) :
    (runSteps d steps (d.select p)).result? = (runSteps d moved (d.select p)).result? := by
  induction order generalizing p with
  | nil => rfl
  | cons entry _ ih =>
    obtain ⟨k, step⟩ := entry
    obtain ⟨q, keeps⟩ := keep (k, step) List.mem_cons_self
    rw [runSteps_cons, runSteps_cons, keeps p]
    cases q with
    | none => rfl
    | some q => exact ih (fun entry member => keep entry (List.mem_cons_of_mem _ member)) _
  | swap first second rest =>
    obtain ⟨q, keeps⟩ := keep second List.mem_cons_self
    obtain ⟨r, keepsToo⟩ := keep first (List.mem_cons_of_mem _ List.mem_cons_self)
    exact runSteps_swap keeps keepsToo rest p
  | trans before _ first second =>
    rw [first keep p, second (fun entry member => keep entry (before.mem_iff.mpr member)) p]

theorem UnionLast.split {steps : List (FilterKind × Step)} (unionLast : UnionLast steps) :
    (∀ entry ∈ steps, entry.1 ≠ .orCollector) ∨
    ∃ narrowing last, steps = narrowing ++ [last] ∧ last.1 = .orCollector ∧
      ∀ entry ∈ narrowing, entry.1 ≠ .orCollector := by
  rcases List.eq_nil_or_concat' steps with rfl | ⟨narrowing, last, rfl⟩
  · exact .inl (by simp)
  · have parts := List.pairwise_append.mp unionLast
    have before : ∀ entry ∈ narrowing, entry.1 ≠ .orCollector := fun entry member =>
      parts.2.2 entry member last List.mem_cons_self
    by_cases union : last.1 = .orCollector
    · exact .inr ⟨narrowing, last, rfl, union, before⟩
    · refine .inl fun entry member => ?_
      rcases List.mem_append.mp member with earlier | final
      · exact before entry earlier
      · exact List.mem_singleton.mp final ▸ union

/-- With the union kept last, the order of all other steps does not count. -/
theorem runSteps_perm_unionLast {steps moved : List (FilterKind × Step)}
    (order : steps.Perm moved) (last : UnionLast steps) (movedLast : UnionLast moved)
    (keep : ∀ entry ∈ steps, entry.1 ≠ .orCollector → ∃ q, entry.2.Keeps d q)
    (p : Element → Bool) :
    (runSteps d steps (d.select p)).result? = (runSteps d moved (d.select p)).result? := by
  rcases last.split with none | ⟨narrowing, union, rfl, isUnion, before⟩
  · exact runSteps_perm order (fun entry member => keep entry member (none entry member)) p
  · have held : union ∈ moved := order.mem_iff.mp (by simp)
    rcases movedLast.split with none | ⟨others, final, rfl, _, beforeToo⟩
    · exact absurd isUnion (none union held)
    · have same : union = final := by
        rcases List.mem_append.mp held with earlier | atEnd
        · exact absurd isUnion (beforeToo union earlier)
        · exact List.mem_singleton.mp atEnd
      subst same
      have inner : narrowing.Perm others := (List.perm_append_right_iff _).mp order
      have moves := runSteps_perm inner
        (fun entry member => keep entry (List.mem_append_left _ member) (before entry member)) p
      rw [runSteps_append, runSteps_append, Run.result?_bind, Run.result?_bind, moves]

namespace EachReordered

variable {steps inside : List (FilterKind × Step)}

theorem kinds (each : EachReordered steps inside) :
    inside.map Prod.fst = steps.map Prod.fst := by
  induction steps generalizing inside with
  | nil =>
    cases each
    rfl
  | cons entry rest ih =>
    cases each with
    | cons here later => simpa using ih later

theorem origin (each : EachReordered steps inside) {k : FilterKind} {other : Step}
    (member : (k, other) ∈ inside) :
    ∃ step, (k, step) ∈ steps ∧ step.Reordered other := by
  induction steps generalizing inside with
  | nil =>
    cases each
    cases member
  | cons entry rest ih =>
    cases each with
    | cons here later =>
      rcases List.mem_cons.mp member with same | member
      · obtain ⟨rfl, rfl⟩ := Prod.mk.inj same
        exact ⟨_, List.mem_cons_self, here⟩
      · obtain ⟨step, member, reordered⟩ := ih later member
        exact ⟨step, List.mem_cons_of_mem _ member, reordered⟩

theorem unionLast (each : EachReordered steps inside) (last : UnionLast steps) :
    UnionLast inside := by
  have kindsLast : (steps.map Prod.fst).Pairwise fun k _ => k ≠ .orCollector :=
    List.pairwise_map.mpr last
  rw [← each.kinds] at kindsLast
  exact List.pairwise_map.mp kindsLast

/-- Steps that end in the same make runs that end in the same. -/
theorem run (each : EachReordered steps inside)
    (same : ∀ k step other, (k, step) ∈ steps → step.Reordered other →
      ∀ s, (other.run d s).result? = (step.run d s).result?) (s : Selection) :
    (runSteps d inside s).result? = (runSteps d steps s).result? := by
  induction steps generalizing inside s with
  | nil =>
    cases each
    rfl
  | cons entry rest ih =>
    cases each with
    | cons here later =>
      rw [runSteps_cons, runSteps_cons, same _ _ _ List.mem_cons_self here]
      congr 1
      funext narrowed
      exact ih later (fun k step other member => same k step other (List.mem_cons_of_mem _ member))
        narrowed

end EachReordered

namespace FilterSet

variable {c : Config} {f : FilterSet} {scope : Scope} {p q : Plan}

/-- What a filter keeps hangs on its value alone, whatever is selected when its step is reached. -/
theorem planner_keeps {k : FilterKind} {value : FilterValue} {step : Step}
    (planned : (planner d c value k scope).outcome = .ok step) (noUnion : k ≠ .orCollector) :
    ∃ q, step.Keeps d q := by
  by_cases logical : k.tier = .logical
  · obtain ⟨g, nested, rfl, made, rfl⟩ := (planner_combination_ok_iff logical).mp planned
    have toured := run_plan (planNested_ok_iff.mp made).2
    refine ⟨if (visits d g (scopeOver d g scope)).allOpen d then
      some (selects d g (scopeOver d g scope)) else none, fun p => ?_⟩
    rw [(k.combine_tours (p := p) toured).result?]
    have narrows : k.join = fun here nested => here && nested := by
      cases k <;> first | rfl | exact absurd rfl noUnion
    rw [narrows]
    split <;> rfl
  · rw [outcome_planner value scope logical] at planned
    by_cases test : k = .whereTest
    · subst test
      obtain ⟨t, _, rfl⟩ := FilterKind.step_whereTest_ok_iff.mp planned
      exact ⟨some t, fun p => (Selection.keepPassing_select t).result⟩
    · have plain : k ∈ FilterKind.native ∨ k = .exclude := by
        revert logical test
        cases k <;> decide
      have narrows := FilterKind.step_narrows plain planned
      exact ⟨some (k.holds d value), fun p => (narrows p).result⟩

theorem unionLast_of_plan {steps : List (FilterKind × Step)}
    (planned : (planSteps ⟨planners d c f.toList⟩ scope FilterKind.byTier).outcome = .ok steps) :
    UnionLast steps := by
  have byTier : FilterKind.byTier.Pairwise fun k _ => k ≠ .orCollector := by decide
  have kinds : (steps.map Prod.fst).Pairwise fun k _ => k ≠ .orCollector := by
    rw [planSteps_kinds planned]
    exact byTier.filter _
  exact List.pairwise_map.mp kinds

theorem run_reordered (planned : (f.plan d c scope).outcome = .ok p) (reordered : p.Reordered q) :
    (q.run d).result? = (p.run d).result? := by
  induction f using nested_induction generalizing scope p q with
  | around f ih =>
    obtain ⟨steps, filters, rfl⟩ := plan_ok_iff.mp planned
    have stepSame : ∀ k step other, (k, step) ∈ steps → step.Reordered other →
        ∀ s, (other.run d s).result? = (step.run d s).result? := by
      intro k step other member reordered s
      obtain ⟨value, found, single⟩ := planner_of_mem filters member
      cases reordered with
      | same => rfl
      | intersect nested | union nested =>
        obtain ⟨g, rfl, made⟩ := plan_of_nested? single rfl
        have inner := ih k g (nested?_eq_some_iff.mpr found) made nested
        simp only [Step.run, Run.result?_bind, inner]
    cases reordered with
    | permuted each order movedLast =>
      rename_i inside moved
      have last := unionLast_of_plan filters
      have keep : ∀ entry ∈ inside, entry.1 ≠ .orCollector → ∃ q, entry.2.Keeps d q := by
        rintro ⟨k, other⟩ member noUnion
        obtain ⟨step, member, reordered⟩ := each.origin member
        obtain ⟨value, _, single⟩ := planner_of_mem filters member
        obtain ⟨q, keeps⟩ := planner_keeps single noUnion
        exact ⟨q, fun p => (stepSame k step other member reordered _).trans (keeps p)⟩
      have steps (p : Element → Bool) :
          (runSteps d moved (d.select p)).result? = (runSteps d steps (d.select p)).result? := by
        rw [← runSteps_perm_unionLast order (each.unionLast last) movedLast keep p]
        exact each.run stepSame _
      by_cases opens : d.opens scope
      · have opened : (Run.call (.query scope) (Selection.ofScope d scope)).result? =
            some (d.select scope.holds) :=
          Run.result?_eq_some_iff.mpr (Selection.ofScope_of_opens opens)
        rw [Plan.run, Plan.run, Run.result?_bind, Run.result?_bind, opened]
        exact steps scope.holds
      · exact (Plan.run_closed opens).result.trans (Plan.run_closed opens).result.symm

/-- A set selects the same in whatever order its steps are carried out, at the top and in nested
plans, as long as unions stay last. -/
theorem reordered_run_ok_iff (d : Document) (c : Config) (f : FilterSet) (scope : Scope)
    (p q : Plan) (s : Selection) (valid : f.validate = .ok ())
    (planned : (f.plan d c scope).outcome = .ok p) (reordered : p.Reordered q) :
    (q.run d).outcome = .ok s ↔ (f.collect d c scope).outcome = .ok s := by
  have collected : (f.collect d c scope).outcome = (p.run d).outcome := by
    rw [collect, Run.outcome_bind, Run.outcome_ofExcept, valid]
    change (f.plan d c scope >>= fun plan => plan.run d).outcome = _
    rw [Run.outcome_bind, planned]
    rfl
  rw [collected, ← Run.result?_eq_some_iff, ← Run.result?_eq_some_iff, run_reordered planned reordered]

def lateWallsOrNotesTestsFirst : Plan :=
  .over .document [
    (.whereTest, .test fun e => e.id != ⟨21⟩),
    (.ofClass, .keep (.ofClass .wall)),
    (.orCollector, .union (.over (.view ⟨11⟩) [
      (.whereTest, .test fun e => !e.isType),
      (.ofCategory, .keep (.ofCategory .textNotes))]))]

theorem lateWallsOrNotesPlan_reordered :
    lateWallsOrNotesPlan.Reordered lateWallsOrNotesTestsFirst := by
  have nested : Plan.Reordered
      (.over (.view ⟨11⟩) [(.ofCategory, .keep (.ofCategory .textNotes)),
        (.whereTest, .test fun e => !e.isType)])
      (.over (.view ⟨11⟩) [(.whereTest, .test fun e => !e.isType),
        (.ofCategory, .keep (.ofCategory .textNotes))]) :=
    .permuted (.cons .same (.cons .same .nil)) (.swap _ _ _) (by simp [UnionLast])
  exact .permuted (.cons .same (.cons .same (.cons (.union nested) .nil))) (.swap _ _ _)
    (by simp [UnionLast])

theorem lateWallsOrNotes_testsFirst :
    Matches.lateWallsOrNotes.validate = .ok () ∧
    (Matches.lateWallsOrNotes.plan (.sample 0) {} .document).outcome = .ok lateWallsOrNotesPlan ∧
    lateWallsOrNotesPlan.Reordered lateWallsOrNotesTestsFirst ∧
    (lateWallsOrNotesTestsFirst.run (.sample 0)).outcome =
      .ok ⟨.sample 0, [⟨22⟩, ⟨23⟩, ⟨41⟩]⟩ :=
  ⟨rfl, rfl, lateWallsOrNotesPlan_reordered,
    (reordered_run_ok_iff (.sample 0) {} Matches.lateWallsOrNotes .document _ _ _ rfl rfl
      lateWallsOrNotesPlan_reordered).mpr rfl⟩

end FilterSet

end Sieve
