import Sieve.Proofs.Extension

/-!
Filters that come in pairs. What one member of a pair keeps the other drops, so the two divide every
query that they are added to, unless the set also has a union, whose elements both members leave in.
-/

namespace Sieve

namespace FilterKind

variable {d : Document} {k j : FilterKind} {value other : FilterValue}

inductive Complementary : FilterKind → FilterValue → FilterKind → FilterValue → Prop where
  | flag {k : FilterKind} (takesFlag : k.shape = .flag) (b : Bool) :
      Complementary k (.flag b) k (.flag !b)
  | type (b : Bool) : Complementary isType (.flag b) isNotType (.flag b)
  | level (value : FilterValue) : Complementary level value notLevel value
  | parameter (p : ParameterPredicate) : Complementary parameterFilter (.parameter p)
      parameterFilter (.parameter { p with reverse := !p.reverse })

namespace Complementary

/-- A reference to a level has to name an element. The other values are taken as they are. -/
theorem accepts_iff (pair : Complementary k value j other) :
    k.Accepts d value ↔ (k = .level → (value.target? d).isSome) := by
  cases pair with
  | flag takesFlag b =>
    have noLevel : k ≠ .level := by rintro rfl; cases takesFlag
    simp [Accepts, takesFlag, Shape.fits, Shape.resolves, noLevel]
  | type b => simp [Accepts, shape, Shape.fits, Shape.resolves]
  | level value => simp [Accepts, shape, Shape.target?_isSome_iff]
  | parameter p => simp [Accepts, shape, Shape.fits, Shape.resolves]

/-- The members of a pair take values of the same kind. -/
theorem accepts_other_iff (pair : Complementary k value j other) :
    j.Accepts d other ↔ k.Accepts d value := by
  cases pair with
  | flag takesFlag b => simp [Accepts, takesFlag, Shape.fits, Shape.resolves]
  | type b => rfl
  | level value => rfl
  | parameter p => rfl

theorem leaf (pair : Complementary k value j other) : k.tier ≠ .logical ∧ j.tier ≠ .logical := by
  cases pair with
  | flag takesFlag b => cases k <;> first | decide | cases takesFlag
  | _ => decide

/-- An element without a level is at no level, one without the parameter has no value that passes:
each meets the second member of its pair. -/
theorem holds_other (pair : Complementary k value j other) (accepted : k.Accepts d value)
    (e : Element) : j.holds d other e = !k.holds d value e := by
  cases pair with
  | flag takesFlag b =>
    cases k <;> first | (cases b <;> simp [holds, FilterValue.flag?]; done) | cases takesFlag
  | type b => rfl
  | level value =>
    have named := (level value).accepts_iff.mp accepted rfl
    obtain ⟨id, named⟩ := Option.isSome_iff_exists.mp named
    simp [holds, named, bne]
  | parameter p => simp [holds, FilterValue.parameter?, ParameterPredicate.passes]

end Complementary

end FilterKind

namespace FilterSet

variable {d : Document} {f : FilterSet} {k : FilterKind} {value : FilterValue} {scope : Scope}

/-- Without a union beside it a filter acts on all that the set selects. -/
theorem selects_set_leaf_of_noUnion (free : f.get? k.name = none) (leaf : k.tier ≠ .logical)
    (noUnion : f.get? FilterKind.orCollector.name = none) (e : Element) :
    (f.set k value).selects d scope e = (f.selects d scope e && k.holds d value e) := by
  rw [selects_set_leaf free leaf, selects_eq d f, nested?_of_free noUnion]
  cases k.holds d value e <;> simp

end FilterSet

namespace Matches

open FilterSet

variable {d : Document} {c : Config} {f : FilterSet} {k j : FilterKind}
  {value other : FilterValue} {scope : Scope}

/-- Two queries that divide an answer: both succeed, share nothing and leave nothing out. -/
def Divides (whole : Matches) (left right : Except QueryError Matches) : Prop :=
  ∃ l r, left = .ok l ∧ right = .ok r ∧ l.ids.Disjoint r.ids ∧
    ∀ id, id ∈ whole.ids ↔ id ∈ l.ids ∨ id ∈ r.ids

structure Halved (d : Document) (k : FilterKind) (value : FilterValue) (whole : Matches)
    (left right : Except QueryError Matches) : Prop where
  divides : (k = .level → (value.target? d).isSome) → Divides whole left right
  /-- No query can ask for a level by a reference that names nothing. -/
  fails : k = .level → value.target? d = none → ∀ m, left ≠ .ok m ∧ right ≠ .ok m

theorem answer_divides (pair : k.Complementary value j other) (accepted : k.Accepts d value)
    (free : f.get? k.name = none) (freeToo : f.get? j.name = none)
    (noUnion : f.get? FilterKind.orCollector.name = none) (scope : Scope) :
    Divides (f.answer d scope) (.ok ((f.set k value).answer d scope))
      (.ok ((f.set j other).answer d scope)) := by
  have left (e : Element) : (f.set k value).selects d scope e =
      (f.selects d scope e && k.holds d value e) :=
    selects_set_leaf_of_noUnion free pair.leaf.1 noUnion e
  have right (e : Element) : (f.set j other).selects d scope e =
      (f.selects d scope e && !k.holds d value e) := by
    rw [selects_set_leaf_of_noUnion freeToo pair.leaf.2 noUnion, pair.holds_other accepted]
  refine ⟨_, _, rfl, rfl, fun id inLeft inRight => ?_, fun id => ?_⟩
  · obtain ⟨e, found, selected⟩ := mem_answer.mp inLeft
    obtain ⟨_, same, dropped⟩ := mem_answer.mp inRight
    obtain rfl := Option.some.inj (found.symm.trans same)
    rw [left] at selected
    rw [right] at dropped
    simp_all
  · simp only [mem_answer, left, right]
    constructor
    · rintro ⟨e, found, selected⟩
      cases met : k.holds d value e with
      | true => exact .inl ⟨e, found, by simp [selected, met]⟩
      | false => exact .inr ⟨e, found, by simp [selected, met]⟩
    · rintro (⟨e, found, selected⟩ | ⟨e, found, selected⟩)
      · exact ⟨e, found, (Bool.and_eq_true_iff.mp selected).1⟩
      · exact ⟨e, found, (Bool.and_eq_true_iff.mp selected).1⟩

/-- A query of the set with one filter more is known by the set's own. -/
theorem halved_of_answers (pair : k.Complementary value j other)
    (free : f.get? k.name = none) (freeToo : f.get? j.name = none)
    (noUnion : f.get? FilterKind.orCollector.name = none) (composes : f.Composes d c scope)
    {left right : Except QueryError Matches}
    (isLeft : ∀ m, left = .ok m ↔
      (f.set k value).Composes d c scope ∧ (f.set k value).answer d scope = m)
    (isRight : ∀ m, right = .ok m ↔
      (f.set j other).Composes d c scope ∧ (f.set j other).answer d scope = m) :
    Halved d k value (f.answer d scope) left right := by
  simp only [composes_set_leaf_iff free pair.leaf.1] at isLeft
  simp only [composes_set_leaf_iff freeToo pair.leaf.2, pair.accepts_other_iff] at isRight
  constructor
  · intro named
    have accepted : k.Accepts d value := pair.accepts_iff.mpr named
    rw [(isLeft _).mpr ⟨⟨composes, accepted⟩, rfl⟩, (isRight _).mpr ⟨⟨composes, accepted⟩, rfl⟩]
    exact answer_divides pair accepted free freeToo noUnion scope
  · intro isLevel unnamed m
    have refused : ¬ k.Accepts d value := fun accepted => by
      simpa [unnamed] using pair.accepts_iff.mp accepted isLevel
    exact ⟨fun answered => refused ((isLeft m).mp answered).1.2,
      fun answered => refused ((isRight m).mp answered).1.2⟩

/-- Where a set without a union has an answer, the sets with one or the other member of a pair of
complementary filters divide it, whatever is nested in the set. -/
theorem complementary_filters_halve (d : Document) (c : Config) (f : FilterSet)
    (k j : FilterKind) (value other : FilterValue) (pair : k.Complementary value j other)
    (free : f.get? k.name = none) (freeToo : f.get? j.name = none)
    (noUnion : f.get? FilterKind.orCollector.name = none) (m : Matches) :
    (∀ scope, (inScope d c scope f).outcome = .ok m →
      Halved d k value m (inScope d c scope (f.set k value)).outcome
        (inScope d c scope (f.set j other)).outcome) ∧
    ((ofFilters d c f).outcome = .ok m →
      Halved d k value m (ofFilters d c (f.set k value)).outcome
        (ofFilters d c (f.set j other)).outcome) := by
  constructor
  · intro scope answered
    obtain ⟨none, composes, rfl⟩ := inScope_answer_iff.mp answered
    refine halved_of_answers pair free freeToo noUnion composes ?_ ?_
    · intro m
      simp [inScope_answer_iff, none]
    · intro m
      simp [inScope_answer_iff, none]
  · intro answered
    obtain ⟨composes, rfl⟩ := ofFilters_answer_iff.mp answered
    refine halved_of_answers pair free freeToo noUnion composes ?_ ?_
    · intro m
      simp [ofFilters_answer_iff]
    · intro m
      simp [ofFilters_answer_iff]

/-- Of what is nested, the wall of the lower storey is kept by its level; the other wall and the
note, which has no level, are left. -/
theorem lateWallsOrNotes_halve :
    let f := andCollector .empty lateWallsOrNotes
    let lower : FilterValue := .element (.number 1)
    let m : Matches := ⟨.document, .sample 0, [⟨22⟩, ⟨23⟩, ⟨41⟩]⟩
    (ofFilters (.sample 0) {} f).outcome = .ok m ∧
    (ofFilters (.sample 0) {} (f.set .level lower)).outcome =
      .ok ⟨.document, .sample 0, [⟨22⟩]⟩ ∧
    (ofFilters (.sample 0) {} (f.set .notLevel lower)).outcome =
      .ok ⟨.document, .sample 0, [⟨23⟩, ⟨41⟩]⟩ ∧
    Divides m (ofFilters (.sample 0) {} (f.set .level lower)).outcome
      (ofFilters (.sample 0) {} (f.set .notLevel lower)).outcome := by
  refine ⟨rfl, rfl, rfl, ?_⟩
  have halved := (complementary_filters_halve (.sample 0) {} (andCollector .empty lateWallsOrNotes)
    _ _ _ _ (.level (.element (.number 1))) rfl rfl rfl _).2 rfl
  exact halved.divides fun _ => rfl

end Matches

end Sieve
