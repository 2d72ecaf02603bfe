import Sieve.Document.Sample
import Sieve.Matches
import Sieve.Proofs.Selection

/-!
What a selection shows of its elements. However it came about, by opening a scope and by narrowing
and combining after that, its numbers ascend and each is that of an element of the document; so its
count, its numbers, every traversal and every single element tell of one and the same list.
-/

namespace Sieve

namespace Selection

/-- The selections of a document that come of opening scopes, narrowing and combining. -/
inductive Reached (d : Document) : Selection → Prop where
  | opened {scope : Scope} {s : Selection} (started : ofScope d scope = .ok s) : Reached d s
  | applied {s : Selection} (before : Reached d s) (c : Criterion) : Reached d (s.apply c)
  | excluded {s : Selection} (before : Reached d s) (ids : List ElementId) :
      Reached d (s.exclude ids)
  | intersected {s other both : Selection} (before : Reached d s) (beside : Reached d other)
      (combined : s.intersect other = .ok both) : Reached d both
  | united {s other either : Selection} (before : Reached d s) (beside : Reached d other)
      (combined : s.union other = .ok either) : Reached d either

variable {d : Document} {s : Selection}

/-- Every operation leads from the elements with some property to those with another. -/
theorem Reached.eq_select (reached : s.Reached d) : ∃ p, s = d.select p := by
  induction reached with
  | @opened scope s started =>
    by_cases opens : d.opens scope
    · rw [ofScope_of_opens opens] at started
      exact ⟨_, (Except.ok.inj started).symm⟩
    · obtain ⟨cause, failed⟩ := ofScope_of_not_opens opens
      rw [failed] at started
      cases started
  | applied _ c ih =>
    obtain ⟨p, rfl⟩ := ih
    exact ⟨_, apply_select c⟩
  | excluded _ ids ih =>
    obtain ⟨p, rfl⟩ := ih
    exact ⟨_, exclude_select ids⟩
  | intersected _ _ combined ih ihBeside =>
    obtain ⟨p, rfl⟩ := ih
    obtain ⟨q, rfl⟩ := ihBeside
    rw [intersect_select] at combined
    exact ⟨_, (Except.ok.inj combined).symm⟩
  | united _ _ combined ih ihBeside =>
    obtain ⟨p, rfl⟩ := ih
    obtain ⟨q, rfl⟩ := ihBeside
    rw [union_select] at combined
    exact ⟨_, (Except.ok.inj combined).symm⟩

/-- Keeping what passes a test is excluding what fails it. -/
theorem Reached.keepPassing {t : ElementTest} {kept : Selection} (before : s.Reached d)
    (ended : (s.keepPassing t).outcome = .ok kept) : kept.Reached d := by
  obtain ⟨p, rfl⟩ := before.eq_select
  rw [(keepPassing_select t).outcome, ← exclude_failing] at ended
  exact Except.ok.inj ended ▸ before.excluded _

end Selection

open Selection

mutual

/-- Carrying a plan out only opens, narrows and combines selections. -/
theorem Plan.run_reached (d : Document) : (p : Plan) → {s : Selection} →
    (p.run d).outcome = .ok s → s.Reached d
  | .over scope steps, s, ended => by
    rw [Plan.run, Run.bind_ok_iff] at ended
    obtain ⟨opened, started, ended⟩ := ended
    exact runSteps_reached d steps (.opened started) ended

theorem runSteps_reached (d : Document) : (steps : List (FilterKind × Step)) →
    {before s : Selection} → before.Reached d → (runSteps d steps before).outcome = .ok s →
    s.Reached d
  | [], before, s, reached, ended => by
    rw [runSteps] at ended
    exact Except.ok.inj ended ▸ reached
  | (_, step) :: rest, before, s, reached, ended => by
    rw [runSteps, Run.bind_ok_iff] at ended
    obtain ⟨narrowed, here, ended⟩ := ended
    exact runSteps_reached d rest (Step.run_reached d step reached here) ended

theorem Step.run_reached (d : Document) : (step : Step) → {before s : Selection} →
    before.Reached d → (step.run d before).outcome = .ok s → s.Reached d
  | .keep c, before, s, reached, ended => by
    rw [Step.run] at ended
    exact Except.ok.inj ended ▸ reached.applied c
  | .test t, before, s, reached, ended => by
    rw [Step.run] at ended
    exact reached.keepPassing ended
  | .exclude ids, before, s, reached, ended => by
    rw [Step.run] at ended
    split at ended
    · exact Except.ok.inj ended ▸ reached
    · exact Except.ok.inj ended ▸ reached.excluded ids
  | .intersect nested, before, s, reached, ended => by
    rw [Step.run, Run.bind_ok_iff] at ended
    obtain ⟨other, inner, combined⟩ := ended
    exact reached.intersected (Plan.run_reached d nested inner) combined
  | .union nested, before, s, reached, ended => by
    rw [Step.run, Run.bind_ok_iff] at ended
    obtain ⟨other, inner, combined⟩ := ended
    exact reached.united (Plan.run_reached d nested inner) combined

end

namespace Traversal

variable {d : Document} {e : Element} {es : List Element}

theorem pull_held (held : d.element? e.id = some e) (rest : List ElementId) :
    pull d (e.id :: rest) = ⟨(some e, ⟨d, rest⟩), [.pull e.id]⟩ := by
  rw [pull, held]
  rfl

/-- So many elements are pulled and no more, in the order of the list. -/
theorem take_held (held : ∀ e ∈ es, d.element? e.id = some e) (n : Nat) :
    (⟨d, es.map Element.id⟩ : Traversal).take n =
      ⟨es.take n, (es.take n).map fun e => .pull e.id⟩ := by
  induction n generalizing es with
  | zero => rfl
  | succ n ih =>
    cases es with
    | nil => rfl
    | cons e rest =>
      rw [take, next, List.map_cons, pull_held (held e List.mem_cons_self)]
      have later := ih fun e member => held e (List.mem_cons_of_mem _ member)
      change (⟨e :: (take ⟨d, rest.map Element.id⟩ n).value,
        .pull e.id :: ((take ⟨d, rest.map Element.id⟩ n).events ++ [])⟩ : Logged _) = _
      rw [later]
      simp

/-- All elements up to the index are pulled, and the last of them is the answer. -/
theorem nth?_held (held : ∀ e ∈ es, d.element? e.id = some e) (index : Nat) :
    (⟨d, es.map Element.id⟩ : Traversal).nth? index =
      ⟨es[index]?, (es.take (index + 1)).map fun e => .pull e.id⟩ := by
  induction index generalizing es with
  | zero =>
    cases es with
    | nil => rfl
    | cons e rest =>
      rw [nth?, next, List.map_cons, pull_held (held e List.mem_cons_self)]
      rfl
  | succ n ih =>
    cases es with
    | nil => rfl
    | cons e rest =>
      rw [nth?, next, List.map_cons, pull_held (held e List.mem_cons_self)]
      have later := ih fun e member => held e (List.mem_cons_of_mem _ member)
      change (⟨(nth? ⟨d, rest.map Element.id⟩ n).value,
        .pull e.id :: (nth? ⟨d, rest.map Element.id⟩ n).events⟩ : Logged _) = _
      rw [later]
      simp

end Traversal

namespace Matches

inductive Built (d : Document) : Matches → Prop where
  | queried {c : Config} {f : FilterSet} {m : Matches}
      (answered : (ofFilters d c f).outcome = .ok m) : Built d m
  | queriedIn {c : Config} {scope : Scope} {f : FilterSet} {m : Matches}
      (answered : (inScope d c scope f).outcome = .ok m) : Built d m
  | intersected {m other both : Matches} (before : Built d m) (beside : Built d other)
      (combined : m.intersect other = .ok both) : Built d both
  | united {m other either : Matches} (before : Built d m) (beside : Built d other)
      (combined : m.union other = .ok either) : Built d either

variable {d : Document} {m : Matches}

theorem reached_of_collect {c : Config} {scope : Scope} {f : FilterSet} {s : Selection}
    (collected : (f.collect d c scope).outcome = .ok s) : s.Reached d := by
  rw [FilterSet.collect, Run.bind_ok_iff] at collected
  obtain ⟨_, _, collected⟩ := collected
  obtain ⟨plan, _, ended⟩ := Run.bind_ok_iff.mp collected
  exact plan.run_reached d ended

theorem Built.reached (built : m.Built d) : m.selection.Reached d := by
  induction built with
  | queried answered =>
    rw [ofFilters, FilterSet.query, Run.bind_ok_iff] at answered
    obtain ⟨⟨scope, s⟩, queried, answered⟩ := answered
    obtain ⟨_, _, queried⟩ := Run.bind_ok_iff.mp queried
    obtain ⟨_, collected, queried⟩ := Run.bind_ok_iff.mp queried
    obtain ⟨rfl, rfl⟩ := Prod.mk.inj (Except.ok.inj queried)
    obtain rfl := Except.ok.inj answered
    exact reached_of_collect collected
  | queriedIn answered =>
    rw [inScope, Run.bind_ok_iff] at answered
    obtain ⟨s, collected, answered⟩ := answered
    obtain rfl := Except.ok.inj answered
    exact reached_of_collect collected
  | @intersected m other both _ _ combined ih ihBeside =>
    rw [intersect] at combined
    cases made : m.selection.intersect other.selection with
    | error e => simp [made, bind, Except.bind] at combined
    | ok s =>
      rw [made] at combined
      obtain rfl := Except.ok.inj combined
      exact ih.intersected ihBeside made
  | @united m other either _ _ combined ih ihBeside =>
    rw [union] at combined
    cases made : m.selection.union other.selection with
    | error e => simp [made, bind, Except.bind] at combined
    | ok s =>
      rw [made] at combined
      obtain rfl := Except.ok.inj combined
      exact ih.united ihBeside made

/-- All that can be asked of what a query matched tells of these elements. -/
structure Lists (d : Document) (m : Matches) (es : List Element) : Prop where
  held : ∀ e ∈ es, d.element? e.id = some e
  ascending : m.ids.Pairwise (· < ·)
  ids : m.ids = es.map Element.id
  count : m.count = es.length
  toList : m.toList.value = es
  /-- Traversals one after another, each left off after some number of elements. -/
  traversals : ∀ lengths : List Nat,
    (lengths.mapM fun n => m.elements >>= fun t => t.take n : Logged _).value = lengths.map es.take
  get? : ∀ index, (m.get? index).value = es[index]?
  first? : m.first?.value = (m.get? 0).value
  get : ∀ index (inside : index < es.length), (m.get index).outcome = .ok es[index]
  past : ∀ index, es.length ≤ index →
    (m.get index).outcome = .error (.indexOutOfRange index m.count)

theorem outcome_get (m : Matches) (index : Nat) :
    (m.get index).outcome = match (m.get? index).value with
      | some e => .ok e
      | none => .error (.indexOutOfRange index m.count) := by
  rw [get, Run.outcome_bind]
  change Run.outcome (match (m.get? index).value with | some e => _ | none => _) = _
  split <;> rfl

theorem lists_select (scope : Scope) (p : Element → Bool) :
    Lists d ⟨scope, d.select p⟩ (d.elements.filter p) := by
  have held : ∀ e ∈ d.elements.filter p, d.element? e.id = some e := fun e member =>
    Document.element?_of_mem (List.mem_filter.mp member).1
  have taken (n : Nat) : (elements ⟨scope, d.select p⟩ >>= fun t => t.take n).value =
      (d.elements.filter p).take n :=
    congrArg Logged.value (Traversal.take_held held n)
  have indexed (index : Nat) : (get? ⟨scope, d.select p⟩ index).value =
      (d.elements.filter p)[index]? :=
    congrArg Logged.value (Traversal.nth?_held held index)
  constructor
  case held => exact held
  case ascending => exact d.select_ascending p
  case ids => rfl
  case count => exact List.length_map _
  case toList =>
    refine (taken (d.select p).ids.length).trans ?_
    simp [Document.select]
  case traversals =>
    intro lengths
    induction lengths with
    | nil => rfl
    | cons n more ih =>
      rw [List.mapM_cons, List.map_cons, ← taken n, ← ih]
      rfl
  case get? => exact indexed
  case first? => rfl
  case get =>
    intro index inside
    rw [outcome_get, indexed, List.getElem?_eq_getElem inside]
  case past =>
    intro index outside
    rw [outcome_get, indexed, List.getElem?_eq_none outside]

/-- Selections reached in a document, under whatever scope, and all that is built of its queries. -/
theorem lists_of_reached (d : Document) :
    (∀ s, Selection.Reached d s → ∀ scope, ∃ es, Lists d ⟨scope, s⟩ es) ∧
    ∀ m, Built d m → ∃ es, Lists d m es := by
  have lists (scope : Scope) (s : Selection) (reached : s.Reached d) :
      ∃ es, Lists d ⟨scope, s⟩ es := by
    obtain ⟨p, rfl⟩ := reached.eq_select
    exact ⟨_, lists_select scope p⟩
  constructor
  · intro s reached scope
    exact lists scope s reached
  · intro m built
    exact lists m.scope m.selection built.reached

/-- In the sample, the walls but the first, and the same with the notes of the upper plan. -/
theorem lateWalls_lists :
    let d := Document.sample 0
    let walls : Selection := ⟨d, [⟨22⟩, ⟨23⟩]⟩
    let both : Matches := ⟨.document, d, [⟨22⟩, ⟨23⟩, ⟨41⟩]⟩
    walls.Reached d ∧ (∃ es, Lists d ⟨.view ⟨10⟩, walls⟩ es) ∧ both.Built d ∧
    ∃ es, Lists d both es ∧ es.length = 3 ∧
      (both.get 3).outcome = .error (.indexOutOfRange 3 3) := by
  intro d walls both
  have opened : Selection.Reached d ⟨d, d.ids⟩ := @Selection.Reached.opened d .document _ rfl
  have reached : walls.Reached d := (opened.applied (.ofClass .wall)).excluded [⟨21⟩]
  have late : Built d ⟨.document, walls⟩ :=
    @Built.queried d {} (.whereTest (.ofClass .empty (.token .wall)) fun e => e.id != ⟨21⟩) _ rfl
  have notes : Built d ⟨.view ⟨11⟩, d, [⟨41⟩]⟩ :=
    @Built.queriedIn d {} (.view ⟨11⟩) (FilterSet.ofCategory .empty (.token .textNotes)) _ rfl
  have built : both.Built d := late.united notes rfl
  obtain ⟨es, lists⟩ := (lists_of_reached d).2 both built
  have three : es.length = 3 := lists.count.symm
  exact ⟨reached, (lists_of_reached d).1 walls reached _, built, es, lists, three,
    lists.past 3 three.le⟩

end Matches

end Sieve
