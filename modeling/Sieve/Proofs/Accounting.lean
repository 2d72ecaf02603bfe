import Mathlib.Algebra.BigOperators.Group.List.Basic
import Mathlib.Algebra.GroupWithZero.Nat
import Sieve.Proofs.Traversal

/-!
What the use of matches costs. Calls of all kinds follow one another in any order, and several
traversals may be under way at once. Each call pulls the elements that it needs and no others, and its
answer depends on no other calls but the earlier pulls of its own traversal.
-/

namespace Sieve

namespace Logged

variable {α β : Type}

theorem pulls_pure (a : α) : (pure a : Logged α).pulls = 0 := rfl

theorem pulls_bind (x : Logged α) (f : α → Logged β) :
    (x >>= f).pulls = x.pulls + (f x.value).pulls := List.countP_append

theorem pulls_of_pulled (a : α) (es : List Element) :
    (⟨a, es.map fun e => .pull e.id⟩ : Logged α).pulls = es.length := by
  rw [pulls, List.countP_map]
  exact List.countP_eq_length.mpr fun _ _ => rfl

end Logged

namespace Matches

inductive Access where
  | count
  | isEmpty
  | ids
  | first
  | get? (index : Nat)
  | get (index : Nat)
  | toList
  | start
  | next (traversal : Nat)
deriving DecidableEq

inductive Answer where
  | count (n : Nat)
  | isEmpty (empty : Bool)
  | ids (ids : List ElementId)
  | element (e : Option Element)
  | fetched (result : Except QueryError Element)
  | elements (es : List Element)
  | started

/-- One call, with the traversals that are under way before and after it. There is nothing to pull
from a traversal that was not started. -/
def access (m : Matches) (underWay : List Traversal) : Access → Logged (Answer × List Traversal)
  | .count => pure (.count m.count, underWay)
  | .isEmpty => pure (.isEmpty m.isEmpty, underWay)
  | .ids => pure (.ids m.ids, underWay)
  | .first => do return (.element (← m.first?), underWay)
  | .get? index => do return (.element (← m.get? index), underWay)
  | .get index => do return (.fetched (← (m.get index).run), underWay)
  | .toList => do return (.elements (← m.toList), underWay)
  | .start => do return (.started, underWay ++ [← m.elements])
  | .next t =>
    match underWay[t]? with
    | some traversal => do
      let pulled ← traversal.next
      return (.element pulled.1, underWay.set t pulled.2)
    | none => pure (.element none, underWay)

def accessAll (m : Matches) : List Traversal → List Access → Logged (List Answer)
  | _, [] => pure []
  | underWay, a :: more => do
    let step ← m.access underWay a
    let answers ← m.accessAll step.2 more
    return step.1 :: answers

def session (m : Matches) (calls : List Access) : Logged (List Answer) := m.accessAll [] calls

namespace Access

def MayFollow (before : List Access) : Access → Prop
  | .next t => t < before.count .start
  | _ => True

instance (before : List Access) : (a : Access) → Decidable (a.MayFollow before)
  | .next t => inferInstanceAs (Decidable (t < before.count .start))
  | .count | .isEmpty | .ids | .first | .get? _ | .get _ | .toList | .start =>
    inferInstanceAs (Decidable True)

/-- How many of so many elements a call pulls by itself. Traversals are paid for as wholes. -/
def cost (n : Nat) : Access → Nat
  | .first => min 1 n
  | .get? index | .get index => min (index + 1) n
  | .toList => n
  | .count | .isEmpty | .ids | .start | .next _ => 0

/-- What a call tells of the matched elements if it was made so many times before. Only the pull of a
traversal takes account of that. -/
def answer (es : List Element) (before : Nat) : Access → Answer
  | .count => .count es.length
  | .isEmpty => .isEmpty es.isEmpty
  | .ids => .ids (es.map Element.id)
  | .first => .element es[0]?
  | .get? index => .element es[index]?
  | .get index =>
    .fetched (if inside : index < es.length then .ok es[index]
      else .error (.indexOutOfRange index es.length))
  | .toList => .elements es
  | .start => .started
  | .next _ => .element es[before]?

end Access

def Orderly (calls : List Access) : Prop :=
  ∀ i (inside : i < calls.length), calls[i].MayFollow (calls.take i)

instance (calls : List Access) : Decidable (Orderly calls) :=
  inferInstanceAs (Decidable (∀ i (inside : i < calls.length), calls[i].MayFollow (calls.take i)))

/-- How many times each of the traversals was pulled that these calls have started. -/
def turns (calls : List Access) : List Nat :=
  (List.range (calls.count .start)).map fun t => calls.count (.next t)

def spent (n : Nat) (calls : List Access) : Nat := ((turns calls).map (min · n)).sum

theorem Orderly.last {before after : List Access} {a : Access}
    (orderly : Orderly (before ++ a :: after)) : a.MayFollow before := by
  have here := orderly before.length (by simp)
  simpa using here

theorem Orderly.before {before after : List Access} (orderly : Orderly (before ++ after)) :
    Orderly before := by
  intro i inside
  have here := orderly i (by rw [List.length_append]; omega)
  rwa [List.getElem_append_left inside, List.take_append_of_le_length inside.le] at here

/-- No traversal is pulled that is yet to be started. -/
theorem Orderly.unpulled {calls : List Access} (orderly : Orderly calls) :
    calls.count (.next (calls.count .start)) = 0 := by
  generalize number : calls.count .start = t
  rw [List.count_eq_zero]
  intro pulled
  obtain ⟨before, after, rfl⟩ := List.append_of_mem pulled
  have started : t < before.count .start := orderly.last
  rw [List.count_append] at number
  omega

variable {calls : List Access} {t : Nat}

theorem length_turns : (turns calls).length = calls.count .start := by
  rw [turns, List.length_map, List.length_range]

theorem turns_getElem (inside : t < (turns calls).length) :
    (turns calls)[t] = calls.count (.next t) := by
  simp only [turns, List.getElem_map, List.getElem_range]

theorem turns_start (orderly : Orderly calls) : turns (calls ++ [.start]) = turns calls ++ [0] := by
  have others (t : Nat) : (calls ++ [Access.start]).count (.next t) = calls.count (.next t) := by
    rw [List.count_append]
    rfl
  have one : (calls ++ [Access.start]).count .start = calls.count .start + 1 := List.count_append
  simp only [turns, others, one, List.range_succ, List.map_append, List.map_singleton,
    orderly.unpulled]

theorem turns_next (t : Nat) :
    turns (calls ++ [.next t]) = (turns calls).set t (calls.count (.next t) + 1) := by
  have same : (calls ++ [Access.next t]).count .start = calls.count .start := List.count_append
  refine List.ext_getElem ?_ fun i inside inside' => ?_
  · rw [List.length_set, length_turns, length_turns, same]
  · rw [turns_getElem, List.count_append]
    by_cases here : i = t
    · subst here
      rw [List.getElem_set_self, List.count_singleton_self]
    · have other : List.count (Access.next i) [Access.next t] = 0 := by
        simp [Ne.symm here]
      rw [List.getElem_set_ne (Ne.symm here), turns_getElem, other, Nat.add_zero]

theorem turns_other {a : Access} (noStart : a ≠ .start) (noPull : ∀ t, a ≠ .next t) :
    turns (calls ++ [a]) = turns calls := by
  have none {b : Access} (other : a ≠ b) : (calls ++ [a]).count b = calls.count b := by
    rw [List.count_append, List.count_singleton, if_neg (by simpa using other), Nat.add_zero]
  simp only [turns, none noStart, none (noPull _)]

theorem sum_map_set {l : List Nat} (f : Nat → Nat) (inside : t < l.length) (k : Nat) :
    ((l.set t k).map f).sum + f l[t] = (l.map f).sum + f k := by
  have inside' : t < (l.map f).length := by rwa [List.length_map]
  have whole : (l.map f).sum = ((l.map f).set t (f l[t])).sum := by
    rw [← List.map_set, List.set_getElem_self]
  rw [whole, List.map_set, List.sum_set, List.sum_set, if_pos inside', if_pos inside']
  omega

variable {n : Nat}

theorem spent_start (orderly : Orderly calls) : spent n (calls ++ [.start]) = spent n calls := by
  rw [spent, turns_start orderly, List.map_append, List.sum_append]
  simp [spent]

theorem spent_next (started : t < calls.count .start) :
    spent n (calls ++ [.next t]) + min (calls.count (.next t)) n =
      spent n calls + min (calls.count (.next t) + 1) n := by
  have inside : t < (turns calls).length := length_turns ▸ started
  have moved := sum_map_set (min · n) inside (calls.count (.next t) + 1)
  rwa [← turns_next, turns_getElem] at moved

variable {d : Document} {scope : Scope} {es : List Element} {a : Access}

def listing (d : Document) (scope : Scope) (es : List Element) : Matches :=
  ⟨scope, d, es.map Element.id⟩

theorem Built.exists_listing {m : Matches} (built : m.Built d) :
    ∃ scope es, (∀ e ∈ es, d.element? e.id = some e) ∧ m = listing d scope es := by
  obtain ⟨p, selected⟩ := built.reached.eq_select
  refine ⟨m.scope, d.elements.filter p, fun e member => ?_, ?_⟩
  · exact Document.element?_of_mem (List.mem_filter.mp member).1
  · exact congrArg (Matches.mk m.scope) selected

def left (d : Document) (es : List Element) (pulled : Nat) : Traversal :=
  ⟨d, (es.drop pulled).map Element.id⟩

def underWay (d : Document) (es : List Element) (calls : List Access) : List Traversal :=
  (turns calls).map (left d es)

theorem underWay_start (orderly : Orderly calls) :
    underWay d es (calls ++ [.start]) = underWay d es calls ++ [left d es 0] := by
  rw [underWay, turns_start orderly, List.map_append]
  rfl

theorem underWay_next (t : Nat) :
    underWay d es (calls ++ [.next t]) =
      (underWay d es calls).set t (left d es (calls.count (.next t) + 1)) := by
  rw [underWay, turns_next, List.map_set, underWay]

theorem underWay_getElem? (started : t < calls.count .start) :
    (underWay d es calls)[t]? = some (left d es (calls.count (.next t))) := by
  have inside : t < (turns calls).length := length_turns ▸ started
  rw [underWay, List.getElem?_map, List.getElem?_eq_getElem inside, turns_getElem, Option.map_some]

section Calls

variable (held : ∀ e ∈ es, d.element? e.id = some e)

include held

theorem next_left (k : Nat) :
    (left d es k).next =
      ⟨(es[k]?, left d es (k + 1)), (es[k]?).toList.map fun e => .pull e.id⟩ := by
  rw [Traversal.next, left]
  dsimp only
  by_cases inside : k < es.length
  · rw [List.drop_eq_getElem_cons inside, List.map_cons,
      Traversal.pull_held (held _ (List.getElem_mem inside)), List.getElem?_eq_getElem inside]
    rfl
  · have past : es.length ≤ k := Nat.not_lt.mp inside
    rw [left, List.drop_eq_nil_of_le past, List.drop_eq_nil_of_le (Nat.le_succ_of_le past),
      List.getElem?_eq_none past]
    rfl

theorem pulls_next_left (k : Nat) :
    (left d es k).next.pulls + min k es.length = min (k + 1) es.length := by
  rw [next_left held, Logged.pulls_of_pulled]
  by_cases inside : k < es.length
  · rw [List.getElem?_eq_getElem inside, Option.toList_some, List.length_singleton]
    omega
  · rw [List.getElem?_eq_none (Nat.not_lt.mp inside), Option.toList_none, List.length_nil]
    omega

theorem get?_listing (index : Nat) :
    (listing d scope es).get? index =
      ⟨es[index]?, .call .elements :: (es.take (index + 1)).map fun e => .pull e.id⟩ := by
  let fresh : Traversal := ⟨d, es.map Element.id⟩
  have reached : fresh.nth? index = _ := Traversal.nth?_held held index
  change (⟨(fresh.nth? index).value, .call .elements :: (fresh.nth? index).events⟩ : Logged _) = _
  rw [reached]

theorem toList_listing :
    (listing d scope es).toList = ⟨es, .call .elements :: es.map fun e => .pull e.id⟩ := by
  let fresh : Traversal := ⟨d, es.map Element.id⟩
  have reached : fresh.toList = _ := Traversal.take_held held (es.map Element.id).length
  change (⟨fresh.toList.value, .call .elements :: fresh.toList.events⟩ : Logged _) = _
  rw [reached, List.length_map, List.take_length]

omit held in
/-- The error tells a count that is at hand. -/
theorem pulls_get (m : Matches) (index : Nat) :
    (m.get index).run.pulls = (m.get? index).pulls := by
  have lifted : Run.events (liftM (m.get? index)) = (m.get? index).events := List.append_nil _
  have events : (m.get index).events = (m.get? index).events := by
    have found : Run.outcome (liftM (m.get? index)) = .ok (m.get? index).value := rfl
    rw [get, Run.events_bind, lifted, found]
    dsimp only
    cases (m.get? index).value <;> exact List.append_nil _
  exact congrArg (List.countP _) events

theorem value_get (index : Nat) :
    ((listing d scope es).get index).run.value =
      if inside : index < es.length then .ok es[index]
      else .error (.indexOutOfRange index es.length) := by
  have fetched : ((listing d scope es).get index).run.value = _ := outcome_get _ index
  have counted : (listing d scope es).count = es.length := List.length_map _
  rw [fetched, get?_listing held, counted]
  by_cases inside : index < es.length
  · rw [dif_pos inside, List.getElem?_eq_getElem inside]
  · rw [dif_neg inside, List.getElem?_eq_none (Nat.not_lt.mp inside)]

/-- A call is answered from the elements alone, and leaves all traversals but its own where they were. -/
theorem access_value (orderly : Orderly calls) (follows : a.MayFollow calls) :
    ((listing d scope es).access (underWay d es calls) a).value =
      (a.answer es (calls.count a), underWay d es (calls ++ [a])) := by
  have kept (noStart : a ≠ .start) (noPull : ∀ t, a ≠ .next t) :
      underWay d es (calls ++ [a]) = underWay d es calls := by
    rw [underWay, turns_other noStart noPull, underWay]
  cases a with
  | count =>
    rw [kept nofun nofun]
    exact Prod.ext (congrArg Answer.count (List.length_map _)) rfl
  | isEmpty =>
    rw [kept nofun nofun]
    have empty : (listing d scope es).isEmpty = es.isEmpty := by
      cases es <;> rfl
    exact Prod.ext (congrArg Answer.isEmpty empty) rfl
  | ids =>
    rw [kept nofun nofun]
    rfl
  | first =>
    rw [kept nofun nofun]
    have fetched : (listing d scope es).first?.value = es[0]? :=
      congrArg Logged.value (get?_listing held 0)
    exact Prod.ext (congrArg Answer.element fetched) rfl
  | get? index =>
    rw [kept nofun nofun]
    have fetched : ((listing d scope es).get? index).value = es[index]? := by
      rw [get?_listing held]
    exact Prod.ext (congrArg Answer.element fetched) rfl
  | get index =>
    rw [kept nofun nofun]
    exact Prod.ext (congrArg Answer.fetched (value_get held index)) rfl
  | toList =>
    rw [kept nofun nofun]
    have listed : (listing d scope es).toList.value = es := by rw [toList_listing held]
    exact Prod.ext (congrArg Answer.elements listed) rfl
  | start =>
    rw [underWay_start orderly]
    rfl
  | next t =>
    rw [access, underWay_getElem? follows, underWay_next]
    change (Answer.element (left d es _).next.value.1, List.set _ t (left d es _).next.value.2) = _
    rw [next_left held]
    rfl

/-- A call pulls what it costs, and the pull of a traversal what that has not pulled yet. -/
theorem access_pulls (orderly : Orderly calls) (follows : a.MayFollow calls) :
    ((listing d scope es).access (underWay d es calls) a).pulls + spent es.length calls =
      a.cost es.length + spent es.length (calls ++ [a]) := by
  have kept (noStart : a ≠ .start) (noPull : ∀ t, a ≠ .next t) :
      spent es.length (calls ++ [a]) = spent es.length calls := by
    rw [spent, turns_other noStart noPull, spent]
  have one (index : Nat) :
      ((listing d scope es).get? index).pulls = min (index + 1) es.length := by
    rw [get?_listing held]
    exact (Logged.pulls_of_pulled (es[index]?) _).trans List.length_take
  cases a with
  | count | isEmpty | ids =>
    rw [kept nofun nofun]
    rfl
  | first =>
    have first : (listing d scope es).first?.pulls = min 1 es.length := one 0
    rw [kept nofun nofun, access, Logged.pulls_bind, Logged.pulls_pure, first]
    rfl
  | get? index =>
    rw [kept nofun nofun, access, Logged.pulls_bind, Logged.pulls_pure, one]
    rfl
  | get index =>
    rw [kept nofun nofun, access, Logged.pulls_bind, Logged.pulls_pure, pulls_get, one]
    rfl
  | toList =>
    have all : (listing d scope es).toList.pulls = es.length := by
      rw [toList_listing held]
      exact Logged.pulls_of_pulled es es
    rw [kept nofun nofun, access, Logged.pulls_bind, Logged.pulls_pure, all]
    rfl
  | start =>
    rw [spent_start orderly]
    rfl
  | next t =>
    have moved := spent_next (n := es.length) follows
    have pulled := pulls_next_left held (calls.count (.next t))
    rw [access, underWay_getElem? follows]
    dsimp only
    rw [Logged.pulls_bind, Logged.pulls_pure, Access.cost]
    omega

/-- From any point on, orderly calls pull what they cost, and what traversals pull beyond that point. -/
theorem accessAll_pulls {more : List Access} (orderly : Orderly (calls ++ more)) :
    ((listing d scope es).accessAll (underWay d es calls) more).pulls + spent es.length calls =
      (more.map (Access.cost es.length)).sum + spent es.length (calls ++ more) := by
  induction more generalizing calls with
  | nil =>
    rw [List.append_nil]
    rfl
  | cons a rest ih =>
    have here : ((listing d scope es).access (underWay d es calls) a).pulls + _ = _ :=
      access_pulls held orderly.before orderly.last
    have stepped : ((listing d scope es).access (underWay d es calls) a).value.2 = _ :=
      congrArg Prod.snd (access_value held orderly.before orderly.last)
    dsimp only at stepped
    rw [List.append_cons] at orderly ⊢
    have later := ih orderly
    rw [accessAll, Logged.pulls_bind, Logged.pulls_bind, Logged.pulls_pure, stepped, List.map_cons,
      List.sum_cons]
    omega

/-- From any point on, orderly calls are answered by how often they were made before. -/
theorem accessAll_value {more : List Access} (orderly : Orderly (calls ++ more)) :
    ((listing d scope es).accessAll (underWay d es calls) more).value =
      more.mapIdx fun i a => a.answer es ((calls ++ more.take i).count a) := by
  induction more generalizing calls with
  | nil => rfl
  | cons a rest ih =>
    have stepped : ((listing d scope es).access (underWay d es calls) a).value = _ :=
      access_value held orderly.before orderly.last
    rw [List.append_cons] at orderly
    have later := ih orderly
    have prefixes (i : Nat) : calls ++ (a :: rest).take (i + 1) = calls ++ [a] ++ rest.take i := by
      rw [List.take_succ_cons, List.append_cons]
    rw [accessAll, Logged.value_bind, Logged.value_bind, Logged.value_pure, stepped, later,
      List.mapIdx_cons, List.take_zero, List.append_nil]
    simp only [prefixes]

end Calls

/-- What calls of a query's matches cost and answer, in any order they can be made in. Each pulls what
it needs, a traversal as many elements as were asked of it and are there, and no call changes the
answer of another: only a pull takes account of earlier calls, those of its own traversal. -/
theorem session_accounts {m : Matches} (built : m.Built d) (orderly : Orderly calls) :
    (m.session calls).pulls =
      (calls.map (Access.cost m.count)).sum + ((turns calls).map (min · m.count)).sum ∧
    (m.session calls).value =
      calls.mapIdx fun i a => a.answer m.toList.value ((calls.take i).count a) := by
  obtain ⟨scope, es, held, rfl⟩ := built.exists_listing
  have count : (listing d scope es).count = es.length := List.length_map _
  have all : (listing d scope es).toList.value = es := by rw [toList_listing held]
  have fresh : Orderly ([] ++ calls) := orderly
  rw [count, all]
  exact ⟨accessAll_pulls held fresh, accessAll_value held fresh⟩

/-- Of three walls, two traversals at once, one of them pulled past the end, between other calls. -/
theorem walls_accounts :
    let d := Document.sample 0
    let m : Matches := ⟨.document, d, [⟨21⟩, ⟨22⟩, ⟨23⟩]⟩
    let calls : List Access := [.start, .start, .next 0, .first, .next 1, .get 5, .next 0, .count,
      .toList, .next 0, .next 0, .get? 1, .next 0]
    m.Built d ∧ Orderly calls ∧ (m.session calls).pulls = 13 ∧
      (m.session calls).value[5]? = some (.fetched (.error (.indexOutOfRange 5 3))) := by
  intro d m calls
  have built : m.Built d :=
    @Built.queried d {} (.ofClass .empty (.token .wall)) _ rfl
  have orderly : Orderly calls := by decide
  obtain ⟨pulls, answers⟩ := session_accounts built orderly
  refine ⟨built, orderly, pulls.trans (by decide), ?_⟩
  rw [answers]
  rfl

end Matches

end Sieve
