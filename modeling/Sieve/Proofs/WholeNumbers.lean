import Sieve.Proofs.Coherence
import Sieve.Proofs.Number.Exact

/-!
Whole numbers written as integers or as doubles. Two of them that differ are at least one apart, so a
tolerance below one never makes them equal, and all comparisons are answered as of integers.
-/

namespace Sieve

inductive Value.Writes : Value → ℤ → Prop where
  | integer (n : Int64) : Writes (.integer n) n.toInt
  | double {x : Float} {n : ℤ} (value : Number.value? x = some (n : ℚ)) : Writes (.double x) n

inductive Argument.Writes : Argument → ℤ → Float → Prop where
  | integer (n : Int64) (tolerance : Float) : Writes (.integer n tolerance) n.toInt tolerance
  | double {y tolerance : Float} {n : ℤ} (value : Number.value? y = some (n : ℚ)) :
      Writes (.double y tolerance) n tolerance

namespace Number

variable {x y tolerance : Float} {m n : ℤ}

theorem value?_one : value? 1 = some ((1 : ℤ) : ℚ) := by
  have one : (1 : Float) = ofInt 1 := by decide +kernel
  rw [one]
  exact value?_ofInt (by decide)

theorem place_one_le (value : value? x = some (n : ℚ)) (positive : 0 < n) : place 1 ≤ place x :=
  place_le_of_le value?_one value (Int.cast_le.mpr positive)

theorem place_eq_zero (value : value? x = some 0) : place x = 0 := by
  have zero : value? 0 = some 0 := rfl
  have stands : place 0 = 0 := by decide
  rw [← stands]
  exact Int.le_antisymm (place_le_of_le value zero le_rfl) (place_le_of_le zero value le_rfl)

end Number

namespace Comparison

variable {c : Comparison} {x y tolerance : Float} {m n : ℤ}

/-- What a comparison says of integers; those that look for parts say nothing of them. -/
def Orders : Comparison → ℤ → ℤ → Prop
  | equals, m, n => m = n
  | greater, m, n => n < m
  | greaterEqual, m, n => n ≤ m
  | less, m, n => m < n
  | lessEqual, m, n => m ≤ n
  | contains, _, _ | begins, _, _ | ends, _, _ => False

instance : (c : Comparison) → (m n : ℤ) → Decidable (c.Orders m n)
  | equals, m, n => inferInstanceAs (Decidable (m = n))
  | greater, m, n => inferInstanceAs (Decidable (n < m))
  | greaterEqual, m, n => inferInstanceAs (Decidable (n ≤ m))
  | less, m, n => inferInstanceAs (Decidable (m < n))
  | lessEqual, m, n => inferInstanceAs (Decidable (m ≤ n))
  | contains, _, _ | begins, _, _ | ends, _, _ => inferInstanceAs (Decidable False)

theorem ofOrdering_compare (whole : ¬ c.textOnly) (m n : ℤ) :
    c.ofOrdering (compare m n) = some (decide (c.Orders m n)) := by
  symm
  cases c with
  | equals => exact some_decide (Int.compare_eq_eq.symm.trans beq_iff_eq.symm)
  | greater => exact some_decide (Int.compare_eq_gt.symm.trans beq_iff_eq.symm)
  | less => exact some_decide (Int.compare_eq_lt.symm.trans beq_iff_eq.symm)
  | greaterEqual =>
    have notLess : n ≤ m ↔ compare m n ≠ .lt := by rw [Ne, Int.compare_eq_lt, Int.not_lt]
    exact some_decide (notLess.trans bne_iff_ne.symm)
  | lessEqual =>
    have notGreater : m ≤ n ↔ compare m n ≠ .gt := by rw [Ne, Int.compare_eq_gt, Int.not_lt]
    exact some_decide (notGreater.trans bne_iff_ne.symm)
  | contains | begins | ends => exact absurd rfl whole

/-- A tolerance below one leaves whole numbers in their order. -/
theorem verdict_sub (value : Number.value? (x - y) = some ((m - n : ℤ) : ℚ)) (nonneg : 0 ≤ tolerance)
    (below : tolerance < 1) :
    verdict (Number.place (x - y)) (Number.place tolerance) = compare m n := by
  obtain ⟨_, reaches⟩ := Number.nonneg_iff.mp nonneg
  obtain ⟨_, _, within⟩ := Number.lt_iff_place.mp below
  rcases Int.lt_trichotomy m n with less | rfl | greater
  · have negated := Number.value?_neg value
    rw [← Int.cast_neg] at negated
    have far := Number.place_one_le negated (by omega)
    rw [Number.place_neg] at far
    rw [Int.compare_eq_lt.mpr less, verdict_eq_lt reaches]
    omega
  · rw [Int.sub_self, Int.cast_zero] at value
    rw [Int.compare_eq_eq.mpr rfl, verdict_eq_eq, Number.place_eq_zero value]
    exact reaches
  · have far := Number.place_one_le value (by omega)
    rw [Int.compare_eq_gt.mpr greater, verdict_eq_gt]
    omega

theorem ofDoubles_whole (whole : ¬ c.textOnly) (stored : Number.value? x = some (m : ℚ))
    (wanted : Number.value? y = some (n : ℚ)) (apart : (m - n).natAbs ≤ 2 ^ 53)
    (nonneg : 0 ≤ tolerance) (below : tolerance < 1) :
    c.ofDoubles x y tolerance = some (decide (c.Orders m n)) := by
  have measurable : Measurable x y tolerance :=
    ⟨nonneg, Number.not_isNaN_of_value? stored, Number.not_isNaN_of_value? wanted,
      fun same => Number.not_isInf_of_value? stored same.1⟩
  have difference := Number.value?_sub stored wanted apart
  rw [ofDoubles_eq_ofOrdering measurable whole, verdict_sub difference nonneg below,
    ofOrdering_compare whole]

theorem compare_toInt (a b : Int64) : compare a b = compare a.toInt b.toInt := by
  rcases Int.lt_trichotomy a.toInt b.toInt with below | same | above
  · rw [Int.compare_eq_lt.mpr below]
    exact Std.compare_eq_lt.mpr (Int64.lt_iff_toInt_lt.mpr below)
  · rw [Int.compare_eq_eq.mpr same, Int64.toInt_inj.mp same]
    exact Std.ReflCmp.compare_self
  · rw [Int.compare_eq_gt.mpr above]
    exact Std.compare_eq_gt.mpr (Int64.lt_iff_toInt_lt.mpr above)

/-- The four pairings of a stored whole number with a wanted one have the same answer. -/
theorem answer_whole (whole : ¬ c.textOnly) {stored : Value} {a : Argument} (writes : stored.Writes m)
    (wanted : a.Writes n tolerance) (small : m.natAbs ≤ 2 ^ 52) (small' : n.natAbs ≤ 2 ^ 52)
    (nonneg : 0 ≤ tolerance) (below : tolerance < 1) :
    c.answer stored a = some (decide (c.Orders m n)) := by
  have apart : (m - n).natAbs ≤ 2 ^ 53 := by omega
  cases writes with
  | integer m =>
    have converted := Number.value?_ofInt (k := m.toInt) (by omega)
    cases wanted with
    | integer n =>
      rw [answer, compare_toInt]
      exact ofOrdering_compare whole _ _
    | double value => exact ofDoubles_whole whole converted value apart nonneg below
  | double value =>
    cases wanted with
    | integer n =>
      have converted := Number.value?_ofInt (k := n.toInt) (by omega)
      exact ofDoubles_whole whole value converted apart nonneg below
    | double value' => exact ofDoubles_whole whole value value' apart nonneg below

end Comparison

namespace Rule

variable {e : Element} {parameter : ParameterId} {stored : Value} {c : Comparison} {m : ℤ}
  {n : Int64} {y tolerance : Float}

/-- Whether a whole number is stored, or asked for, as an integer or as a double makes no difference:
a rule and its inverse answer as the integers compare. -/
theorem whole_numbers_compare_exactly (held : e.parameter? parameter = some stored)
    (writes : stored.Writes m) (wanted : Number.value? y = some (n.toInt : ℚ))
    (small : m.natAbs ≤ 2 ^ 52) (small' : n.toInt.natAbs ≤ 2 ^ 52) (nonneg : 0 ≤ tolerance)
    (below : tolerance < 1) (whole : ¬ c.textOnly) :
    let asInteger := compare parameter c (.integer n tolerance)
    let asDouble := compare parameter c (.double y tolerance)
    let truth := decide (c.Orders m n.toInt)
    asInteger.evaluate e = some truth ∧ asDouble.evaluate e = some truth ∧
      asInteger.inverse.evaluate e = some !truth ∧ asDouble.inverse.evaluate e = some !truth := by
  intro asInteger asDouble truth
  have answered {a : Argument} (wanted : a.Writes n.toInt tolerance) :
      (compare parameter c a).evaluate e = some truth := by
    rw [evaluate_stored held]
    exact Comparison.answer_whole whole writes wanted small small' nonneg below
  have ofInteger : asInteger.evaluate e = some truth := answered (.integer n tolerance)
  have ofDouble : asDouble.evaluate e = some truth := answered (.double wanted)
  refine ⟨ofInteger, ofDouble, ?_, ?_⟩
  · rw [evaluate, ofInteger, Option.map_some]
  · rw [evaluate, ofDouble, Option.map_some]

/-- A wall one unit too low is lower under a tolerance of three quarters of a unit. -/
theorem height_below_whole :
    let e := Document.Sample.wall ⟨20⟩ ⟨1⟩ ⟨10⟩ 10 "A-1"
    let lower := fun a => (compare Document.Sample.height .less a).evaluate e
    lower (.integer 11 0.75) = some true ∧ lower (.double 11 0.75) = some true := by
  intro e lower
  have held : e.parameter? Document.Sample.height = some (.double 10) := by decide +kernel
  have ten : (10 : Float) = Number.ofInt 10 := by decide +kernel
  have eleven : (11 : Float) = Number.ofInt 11 := by decide +kernel
  have stored : Number.value? 10 = some ((10 : ℤ) : ℚ) := ten ▸ Number.value?_ofInt (by decide)
  have wanted : Number.value? 11 = some (((11 : Int64).toInt : ℤ) : ℚ) :=
    eleven ▸ Number.value?_ofInt (by decide)
  have nonneg : (0 : Float) ≤ 0.75 := by decide +kernel
  have below : (0.75 : Float) < 1 := by decide +kernel
  obtain ⟨ofInteger, ofDouble, _⟩ := whole_numbers_compare_exactly (c := .less) held (.double stored)
    wanted (by decide) (by decide) nonneg below nofun
  exact ⟨ofInteger.trans (by decide), ofDouble.trans (by decide)⟩

end Rule

end Sieve
