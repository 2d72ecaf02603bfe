import Sieve.Proofs.Negation
import Sieve.Proofs.Number.Order

/-!
The comparisons of one value with one argument cohere: all of them answer by one and the same order of
the two. Between doubles that order calls equal what is no further apart than the tolerance.
-/

namespace Sieve

/-- The two doubles that a value and an argument are compared as, with the tolerance. Whole numbers
among themselves, ids and texts are not compared as doubles. -/
inductive AsDoubles : Value → Argument → Float → Float → Float → Prop where
  | doubles {x y tolerance : Float} : AsDoubles (.double x) (.double y tolerance) x y tolerance
  | wholeWanted {x tolerance : Float} {m : Int64} :
      AsDoubles (.double x) (.integer m tolerance) x (Number.ofInt m.toInt) tolerance
  | wholeStored {y tolerance : Float} {n : Int64} :
      AsDoubles (.integer n) (.double y tolerance) (Number.ofInt n.toInt) y tolerance

structure Measurable (stored wanted tolerance : Float) : Prop where
  tolerance_nonneg : 0 ≤ tolerance
  stored_number : ¬ stored.isNaN
  wanted_number : ¬ wanted.isNaN
  apart : ¬ (stored.isInf ∧ stored == wanted)

namespace Comparison

/-- Exactly one of greater, equal and less is answered with yes, and the two weaker comparisons are
answered against the opposite strict one. -/
structure Coherent (answer : Comparison → Option Bool) : Prop where
  definite : ∀ c : Comparison, ¬ c.textOnly → (answer c).isSome
  one : ∃! c, c ∈ [greater, equals, less] ∧ answer c = some true
  notLess : answer greaterEqual = (answer less).map (!·)
  notGreater : answer lessEqual = (answer greater).map (!·)

theorem Coherent.of_ordering {answer : Comparison → Option Bool} {o : Ordering}
    (ordered : ∀ c : Comparison, ¬ c.textOnly → answer c = c.ofOrdering o) : Coherent answer where
  definite c whole := by
    rw [ordered c whole, isSome_ofOrdering, Bool.eq_false_of_not_eq_true whole]
    rfl
  one := by
    have isGreater := ordered greater nofun
    have isEqual := ordered equals nofun
    have isLess := ordered less nofun
    cases o with
    | lt => exact ⟨less, by simp [isLess, ofOrdering], by simp [isGreater, isEqual, ofOrdering]⟩
    | eq => exact ⟨equals, by simp [isEqual, ofOrdering], by simp [isGreater, isLess, ofOrdering]⟩
    | gt => exact ⟨greater, by simp [isGreater, ofOrdering], by simp [isEqual, isLess, ofOrdering]⟩
  notLess := by
    rw [ordered greaterEqual nofun, ordered less nofun]
    cases o <;> rfl
  notGreater := by
    rw [ordered lessEqual nofun, ordered greater nofun]
    cases o <;> rfl

/-- The order of two doubles by the place of their difference and that of the tolerance. -/
def verdict (difference tolerance : Int) : Ordering :=
  if tolerance < difference then .gt else if tolerance < -difference then .lt else .eq

variable {difference tolerance : Int}

theorem verdict_eq_gt : verdict difference tolerance = .gt ↔ tolerance < difference := by
  rw [verdict]
  split
  · next above => exact iff_of_true rfl above
  · next notAbove => split <;> exact iff_of_false nofun notAbove

theorem verdict_eq_lt (nonneg : 0 ≤ tolerance) :
    verdict difference tolerance = .lt ↔ tolerance < -difference := by
  rw [verdict]
  split
  · next above => exact iff_of_false nofun (by omega)
  · split
    · next below => exact iff_of_true rfl below
    · next notBelow => exact iff_of_false nofun notBelow

theorem verdict_eq_eq :
    verdict difference tolerance = .eq ↔ (difference.natAbs : Int) ≤ tolerance := by
  rw [verdict]
  split
  · next above => exact iff_of_false nofun (by omega)
  · split
    · next below => exact iff_of_false nofun (by omega)
    · exact iff_of_true rfl (by omega)

theorem some_decide {P : Prop} [Decidable P] {b : Bool} (same : P ↔ b) : some (decide P) = some b := by
  rw [Option.some.injEq, Bool.eq_iff_iff, decide_eq_true_iff]
  exact same

/-- Places are compared in place of numbers: that of the difference with that of the tolerance. -/
theorem ofDoubles_eq_ofOrdering {x y tolerance : Float} (measurable : Measurable x y tolerance)
    {c : Comparison} (whole : ¬ c.textOnly) :
    c.ofDoubles x y tolerance =
      c.ofOrdering (verdict (Number.place (x - y)) (Number.place tolerance)) := by
  obtain ⟨nonneg, stored, wanted, apart⟩ := measurable
  obtain ⟨number, nonneg⟩ := Number.nonneg_iff.mp nonneg
  have difference : ¬ (x - y).isNaN := Number.isNaN_sub stored wanted apart
  have numbers : ¬ (x.isNaN || y.isNaN) := by
    rw [Bool.or_eq_true]
    exact not_or.mpr ⟨stored, wanted⟩
  rw [ofDoubles, if_neg whole, if_neg numbers]
  dsimp only
  -- Only for less and greater or equal does it count that the tolerance is not below zero: were it,
  -- one number could be both greater and less than another.
  cases c with
  | equals =>
    have close := Number.le_iff (mt Number.isNaN_abs.mp difference) number
    rw [Number.place_abs, ← verdict_eq_eq] at close
    exact some_decide (close.trans beq_iff_eq.symm)
  | greater =>
    have above := Number.lt_iff number difference
    rw [← verdict_eq_gt] at above
    exact some_decide (above.trans beq_iff_eq.symm)
  | less =>
    have below := Number.lt_iff number (mt Number.isNaN_neg.mp difference)
    rw [Number.place_neg, ← verdict_eq_lt nonneg] at below
    exact some_decide (below.trans beq_iff_eq.symm)
  | greaterEqual =>
    have reaches := Number.le_iff (mt Number.isNaN_neg.mp number) difference
    rw [Number.place_neg, Int.neg_le_iff, ← Int.not_lt, ← verdict_eq_lt nonneg] at reaches
    exact some_decide (reaches.trans bne_iff_ne.symm)
  | lessEqual =>
    have reaches := Number.le_iff difference number
    rw [← Int.not_lt, ← verdict_eq_gt] at reaches
    exact some_decide (reaches.trans bne_iff_ne.symm)
  | contains | begins | ends => exact absurd rfl whole

theorem ofTexts_eq_ofOrdering {c : Comparison} (whole : ¬ c.textOnly) (stored wanted : List Char) :
    c.ofTexts stored wanted = c.ofOrdering (Text.order stored wanted) := by
  cases c with
  | contains | begins | ends => exact absurd rfl whole
  | _ => rfl

/-- One order of the value and the argument answers all comparisons but those that look for parts. -/
theorem exists_ordering {stored : Value} {a : Argument} (comparable : stored.domain = a.domain)
    (measurable : ∀ x y tolerance, AsDoubles stored a x y tolerance → Measurable x y tolerance) :
    ∃ o, ∀ c : Comparison, ¬ c.textOnly → c.answer stored a = c.ofOrdering o := by
  cases stored with
  | text s =>
    cases a with
    | text w caseSensitive => exact ⟨_, fun c whole => ofTexts_eq_ofOrdering whole _ _⟩
    | _ => cases comparable
  | double x =>
    cases a with
    | double y tolerance =>
      exact ⟨_, fun c whole => ofDoubles_eq_ofOrdering (measurable _ _ _ .doubles) whole⟩
    | integer m tolerance =>
      exact ⟨_, fun c whole => ofDoubles_eq_ofOrdering (measurable _ _ _ .wholeWanted) whole⟩
    | _ => cases comparable
  | integer n =>
    cases a with
    | double y tolerance =>
      exact ⟨_, fun c whole => ofDoubles_eq_ofOrdering (measurable _ _ _ .wholeStored) whole⟩
    | integer m tolerance => exact ⟨_, fun c _ => rfl⟩
    | _ => cases comparable
  | id i =>
    cases a with
    | id j => exact ⟨_, fun c _ => rfl⟩
    | _ => cases comparable

end Comparison

namespace Rule

variable {e : Element} {parameter : ParameterId} {stored : Value} {a : Argument}

/-- The comparisons of a stored value with an argument that it can be compared with cohere. Where the
two are compared as doubles they have to be numbers and not the same infinity. -/
theorem comparisons_cohere (held : e.parameter? parameter = some stored)
    (comparable : stored.domain = a.domain)
    (measurable : ∀ x y tolerance, AsDoubles stored a x y tolerance → Measurable x y tolerance) :
    Comparison.Coherent fun c => (compare parameter c a).evaluate e := by
  obtain ⟨o, ordered⟩ := Comparison.exists_ordering comparable measurable
  refine .of_ordering (o := o) fun c whole => ?_
  rw [evaluate_stored held, ordered c whole]

/-- A wall that is just as much higher than the wanted height as the tolerance allows. -/
theorem height_at_tolerance_coheres :
    let e := Document.Sample.wall ⟨20⟩ ⟨1⟩ ⟨10⟩ 10.5 "A-1"
    let answer := fun c =>
      (compare Document.Sample.height c (.integer 10 0.5)).evaluate e
    Comparison.Coherent answer ∧ answer .equals = some true := by
  intro e answer
  have held : e.parameter? Document.Sample.height = some (.double 10.5) := by decide +kernel
  have measurable : ∀ x y tolerance,
      AsDoubles (.double 10.5) (.integer 10 0.5) x y tolerance → Measurable x y tolerance := by
    rintro _ _ _ ⟨⟩
    exact ⟨by decide +kernel, by decide +kernel, by decide +kernel, by decide +kernel⟩
  exact ⟨comparisons_cohere held rfl measurable, by decide +kernel⟩

end Rule

end Sieve
