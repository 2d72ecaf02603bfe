import Mathlib.Tactic.Linarith
import Mathlib.Tactic.Ring
import Sieve.Number.Decimal
import Sieve.Proofs.Number.Order

/-!
Exact arithmetic on binary64 numbers. A finite number stands for a rational, and rounding a rational
that some number stands for gives that number back. So small whole numbers are converted without loss,
differences are exact where binary64 holds them, and numbers are in the order of their rationals.
-/

namespace Sieve.Number

open Float.Model (Format UnpackedFloat totalExponent)
open Float.Model.UnpackedFloat (Sign ExtendedMantissa shiftToExponent shiftToTargetExponent
  roundWithAccuracy decreaseExponent unpack pack)

def rational? : UnpackedFloat → Option ℚ
  | .zero _ => some 0
  | .finite s m e _ => some (s.apply m * 2 ^ e)
  | .infinity _ | .notANumber => none

/-- The rational that a double stands for; a NaN and the infinities have none. -/
def value? (x : Float) : Option ℚ := rational? x.toModel.unpack

theorem shiftRight_exact (m k : ℕ) :
    (⟨m * 2 ^ k, false, false⟩ : ExtendedMantissa) >>> k = ⟨m, false, false⟩ := by
  induction k generalizing m with
  | zero =>
    rw [pow_zero, mul_one]
    rfl
  | succ k ih =>
    have before : Nat.repeat ExtendedMantissa.shiftRightOne k ⟨2 * m * 2 ^ k, false, false⟩ =
        ⟨2 * m, false, false⟩ := ih (2 * m)
    have twice : m * 2 ^ (k + 1) = 2 * m * 2 ^ k := by ring
    rw [twice]
    change ExtendedMantissa.shiftRightOne (Nat.repeat _ k _) = _
    rw [before]
    simp [ExtendedMantissa.shiftRightOne]

theorem shiftToExponent_exact (m k : ℕ) (e : ℤ) :
    shiftToExponent (m * 2 ^ k) e .exact (e + k) = (⟨m, false, false⟩, e + k) := by
  have amount : (e + k - e).toNat = k := by omega
  rw [shiftToExponent, amount]
  exact Prod.ext (shiftRight_exact m k) rfl

/-- Two ways to write one rational are a shift apart. -/
theorem exists_shift {m m' : ℕ} {e e' : ℤ} (same : (m : ℚ) * 2 ^ e = m' * 2 ^ e') (low : e ≤ e') :
    ∃ k : ℕ, e' = e + k ∧ m = m' * 2 ^ k := by
  obtain ⟨k, rfl⟩ := Int.le.dest low
  refine ⟨k, rfl, ?_⟩
  have nonzero : (2 : ℚ) ^ e ≠ 0 := zpow_ne_zero e two_ne_zero
  rw [zpow_add₀ two_ne_zero, zpow_natCast] at same
  have scaled : (m : ℚ) = m' * 2 ^ k := by
    apply mul_right_cancel₀ nonzero
    rw [same]
    ring
  exact_mod_cast scaled

theorem log2_shift {m : ℕ} (pos : 0 < m) (k : ℕ) : (m * 2 ^ k).log2 = m.log2 + k := by
  have lower : 2 ^ m.log2 ≤ m := Nat.log2_self_le pos.ne'
  have upper : m < 2 ^ (m.log2 + 1) := Nat.lt_log2_self
  rw [Nat.log2_eq_iff (by positivity)]
  constructor
  · rw [pow_add]
    exact Nat.mul_le_mul_right _ lower
  · rw [Nat.add_right_comm, pow_add]
    exact Nat.mul_lt_mul_of_pos_right upper (by positivity)

theorem totalExponent_congr {m m' : ℕ} {e e' : ℤ} (pos : 0 < m) (pos' : 0 < m')
    (same : (m : ℚ) * 2 ^ e = m' * 2 ^ e') : totalExponent m e = totalExponent m' e' := by
  rcases Int.le_total e e' with low | low
  · obtain ⟨k, rfl, rfl⟩ := exists_shift same low
    rw [totalExponent, totalExponent, log2_shift pos']
    omega
  · obtain ⟨k, rfl, rfl⟩ := exists_shift same.symm low
    rw [totalExponent, totalExponent, log2_shift pos]
    omega

section Rounding

variable {s : Sign} {m : ℕ} {e : ℤ} {pos : 0 < m}

/-- The exponent of a number that binary64 holds is the one that rounding aims at. -/
theorem targetExponent_of_held (held : Held (.finite s m e pos)) :
    Format.binary64.targetExponent (totalExponent m e) = e := by
  obtain ⟨small, low, _, full⟩ := held
  have upper : m.log2 < 53 := (Nat.log2_lt pos.ne').mpr small
  have normal := log2_full_iff pos small
  have bits : Format.binary64.mantissaBits = 53 := rfl
  have least : Format.binary64.minExponent = -1074 := rfl
  rw [Format.targetExponent, totalExponent, least, bits]
  rw [bits] at normal
  omega

theorem shift_of_held (held : Held (.finite s m e pos)) (k : ℕ) :
    shiftToTargetExponent Format.binary64 (m * 2 ^ k) (e - k) .exact = (⟨m, false, false⟩, e) := by
  have total : totalExponent (m * 2 ^ k) (e - k) = totalExponent m e := by
    rw [totalExponent, totalExponent, log2_shift pos]
    omega
  have shifted := shiftToExponent_exact m k (e - k)
  rw [Int.sub_add_cancel] at shifted
  rw [shiftToTargetExponent, total, targetExponent_of_held held]
  exact shifted

theorem roundWithAccuracy_of_held (held : Held (.finite s m e pos)) (k : ℕ) :
    roundWithAccuracy Format.binary64 s (m * 2 ^ k) (e - k) .exact = .finite s m e pos := by
  have again := shift_of_held held 0
  rw [pow_zero, mul_one, Nat.cast_zero, Int.sub_zero] at again
  have rounded : (⟨m, false, false⟩ : ExtendedMantissa).roundedMantissa = m := rfl
  rw [roundWithAccuracy, shift_of_held held k]
  dsimp only
  rw [rounded, again]
  dsimp only
  rw [dif_neg pos.ne']

/-- Rounding gives back every number that binary64 holds, however it is written. -/
theorem round_of_held (held : Held (.finite s m e pos)) {n : ℕ} {i : ℤ} (positive : 0 < n)
    (same : (n : ℚ) * 2 ^ i = m * 2 ^ e) :
    UnpackedFloat.round Format.binary64 s n i = .finite s m e pos := by
  have target : Format.binary64.targetExponent (totalExponent n i) = e := by
    rw [totalExponent_congr positive pos same, targetExponent_of_held held]
  rw [UnpackedFloat.round, target, decreaseExponent, Nat.shiftLeft_eq]
  dsimp only
  rcases Int.le_total i e with low | high
  · obtain ⟨k, rfl, rfl⟩ := exists_shift same low
    have none : (i - (i + k)).toNat = 0 := by omega
    have kept := roundWithAccuracy_of_held held k
    rw [Int.add_sub_cancel] at kept
    rw [none, pow_zero, mul_one, Nat.cast_zero, Int.sub_zero]
    exact kept
  · obtain ⟨k, rfl, rfl⟩ := exists_shift same.symm high
    have amount : (e + k - e).toNat = k := by omega
    have kept := roundWithAccuracy_of_held held 0
    rw [pow_zero, mul_one, Nat.cast_zero, Int.sub_zero] at kept
    rw [amount, Int.add_sub_cancel]
    exact kept

end Rounding

structure Stands (u : UnpackedFloat) (a : ℚ) : Prop where
  held : Held u
  value : rational? u = some a

variable {u w v : UnpackedFloat} {a b : ℚ}

theorem zero_stands (s : Sign) : Stands (.zero s) 0 := ⟨trivial, rfl⟩

theorem Stands.neg (stands : Stands u a) : Stands u.neg (-a) := by
  obtain ⟨held, value⟩ := stands
  cases u with
  | notANumber | infinity => cases value
  | zero s =>
    obtain rfl := Option.some.inj value
    rw [neg_zero]
    exact zero_stands _
  | finite s m e pos =>
    obtain rfl := Option.some.inj value
    refine ⟨held, congrArg some ?_⟩
    cases s <;> simp [Sign.apply]

theorem normalize_apply (f : Format) (s : Sign) {n : ℕ} (pos : 0 < n) (i : ℤ) (zeroSign : Sign) :
    UnpackedFloat.normalize f (s.apply n) i zeroSign = UnpackedFloat.round f s n i := by
  cases s with
  | negative =>
    have below : -(n : ℤ) < 0 := by omega
    rw [Sign.apply, UnpackedFloat.normalize, Int.compare_eq_lt.mpr below]
    dsimp only
    rw [Int.neg_neg, Int.toNat_natCast]
  | positive =>
    have above : 0 < (n : ℤ) := by omega
    rw [Sign.apply, UnpackedFloat.normalize, Int.compare_eq_gt.mpr above]
    dsimp only
    rw [Int.toNat_natCast]

theorem exists_apply (n : ℤ) : ∃ (s : Sign) (k : ℕ), n = s.apply k := by
  obtain ⟨k, rfl | rfl⟩ := n.eq_nat_or_neg
  · exact ⟨.positive, k, rfl⟩
  · exact ⟨.negative, k, rfl⟩

/-- A rational other than zero has one sign. -/
theorem apply_mul_inj {s s' : Sign} {m n : ℕ} {p q : ℚ} (first : 0 < m * p) (second : 0 < n * q)
    (same : ((s.apply m : ℤ) : ℚ) * p = (s'.apply n : ℤ) * q) : s = s' ∧ m * p = n * q := by
  cases s <;> cases s' <;>
    simp only [Sign.apply, Int.cast_neg, Int.cast_natCast, neg_mul, neg_inj] at same
  case negative.negative => exact ⟨rfl, same⟩
  case negative.positive => linarith
  case positive.negative => linarith
  case positive.positive => exact ⟨rfl, same⟩

theorem normalize_of_stands {n i : ℤ} (stands : Stands u ((n : ℚ) * 2 ^ i)) (nonzero : n ≠ 0)
    (zeroSign : Sign) : UnpackedFloat.normalize Format.binary64 n i zeroSign = u := by
  have unit (j : ℤ) : (0 : ℚ) < 2 ^ j := zpow_pos two_pos j
  obtain ⟨held, value⟩ := stands
  cases u with
  | notANumber | infinity => cases value
  | zero s =>
    have none : (n : ℚ) * 2 ^ i = 0 := (Option.some.inj value).symm
    rcases mul_eq_zero.mp none with none | none
    · exact absurd (Int.cast_eq_zero.mp none) nonzero
    · exact absurd none (unit i).ne'
  | finite s m e pos =>
    obtain ⟨s', k, rfl⟩ := exists_apply n
    have positive : 0 < k := by
      rw [Nat.pos_iff_ne_zero]
      rintro rfl
      cases s' <;> exact nonzero rfl
    obtain ⟨rfl, same⟩ := apply_mul_inj (mul_pos (Nat.cast_pos.mpr pos) (unit e))
      (mul_pos (Nat.cast_pos.mpr positive) (unit i)) (Option.some.inj value)
    rw [normalize_apply _ _ positive]
    exact round_of_held held positive same.symm

theorem Stands.normalize {n i : ℤ} (stands : Stands u ((n : ℚ) * 2 ^ i)) (zeroSign : Sign) :
    Stands (UnpackedFloat.normalize Format.binary64 n i zeroSign) ((n : ℚ) * 2 ^ i) := by
  by_cases zero : n = 0
  · subst zero
    rw [Int.cast_zero, zero_mul]
    exact zero_stands zeroSign
  · rw [normalize_of_stands stands zero zeroSign]
    exact stands

/-- A mantissa that is written with a lesser exponent stands for the same. -/
theorem decreaseExponent_value (s : Sign) (m : ℕ) {e target : ℤ} (low : target ≤ e) :
    ((s.apply (decreaseExponent m e target).1 : ℤ) : ℚ) * 2 ^ target = s.apply m * 2 ^ e := by
  obtain ⟨k, rfl⟩ := Int.le.dest low
  have amount : (target + k - target).toNat = k := by omega
  rw [decreaseExponent, amount, Nat.shiftLeft_eq, zpow_add₀ two_ne_zero, zpow_natCast]
  cases s <;> simp only [Sign.apply] <;> push_cast <;> ring

/-- Subtraction is exact if binary64 holds the difference. -/
theorem Stands.sub (stands : Stands u a) (stands' : Stands w b) (difference : Stands v (a - b)) :
    Stands (UnpackedFloat.sub Format.binary64 u w) (a - b) := by
  obtain ⟨held, value⟩ := stands
  obtain ⟨held', value'⟩ := stands'
  cases u with
  | notANumber | infinity => cases value
  | zero s =>
    obtain rfl := Option.some.inj value
    cases w with
    | notANumber | infinity => cases value'
    | zero s' =>
      obtain rfl := Option.some.inj value'
      rw [sub_zero]
      change Stands (if s == -s' then .zero s else .zero .positive) 0
      split <;> exact zero_stands _
    | finite s' m' e' pos' =>
      rw [zero_sub]
      exact Stands.neg ⟨held', value'⟩
  | finite s m e pos =>
    cases w with
    | notANumber | infinity => cases value'
    | zero s' =>
      obtain rfl := Option.some.inj value'
      rw [sub_zero]
      exact ⟨held, value⟩
    | finite s' m' e' pos' =>
      obtain rfl := Option.some.inj value
      obtain rfl := Option.some.inj value'
      have aligned := decreaseExponent_value s m (min_le_left e e')
      have aligned' := decreaseExponent_value s' m' (min_le_right e e')
      rw [← aligned, ← aligned', ← sub_mul, ← Int.cast_sub] at difference ⊢
      exact difference.normalize .positive

/-- Binary64 holds the whole numbers up to 2^53. -/
theorem exists_stands_natCast {n : ℕ} (small : n ≤ 2 ^ 53) : ∃ u, Stands u n := by
  rcases Nat.eq_zero_or_pos n with rfl | pos
  · exact ⟨.zero .positive, zero_stands _⟩
  rcases Nat.eq_or_lt_of_le small with rfl | below
  · refine ⟨.finite .positive (2 ^ 52) 1 (by positivity), ⟨by omega, by omega, by omega, ?_⟩, ?_⟩
    · exact .inl (by omega)
    · refine congrArg some ?_
      norm_num [Sign.apply]
  · have top : n.log2 ≤ 52 := by
      have upper : n.log2 < 53 := (Nat.log2_lt pos.ne').mpr below
      omega
    have lower : 2 ^ n.log2 ≤ n := Nat.log2_self_le pos.ne'
    have upper : n < 2 ^ (n.log2 + 1) := Nat.lt_log2_self
    obtain ⟨k, sum⟩ := Nat.le.dest top
    have least : 2 ^ n.log2 * 2 ^ k = 0x10000000000000 := by
      rw [← pow_add, sum]
      rfl
    have most : 2 ^ (n.log2 + 1) * 2 ^ k = 0x20000000000000 := by
      rw [← pow_add, Nat.add_right_comm, sum]
      rfl
    have full : 0x10000000000000 ≤ n * 2 ^ k := least ▸ Nat.mul_le_mul_right _ lower
    have fits : n * 2 ^ k < 0x20000000000000 :=
      most ▸ Nat.mul_lt_mul_of_pos_right upper (by positivity)
    refine ⟨.finite .positive (n * 2 ^ k) (-k) (by positivity), ⟨fits, ?_, ?_, .inl full⟩, ?_⟩
    · omega
    · omega
    · refine congrArg some ?_
      have unit : (2 : ℚ) ^ k ≠ 0 := by positivity
      simp only [Sign.apply, zpow_neg, zpow_natCast]
      push_cast
      rw [mul_assoc, mul_inv_cancel₀ unit, mul_one]

theorem exists_stands_intCast {k : ℤ} (small : k.natAbs ≤ 2 ^ 53) : ∃ u, Stands u k := by
  obtain ⟨n, rfl | rfl⟩ := k.eq_nat_or_neg
  · rw [Int.natAbs_natCast] at small
    rw [Int.cast_natCast]
    exact exists_stands_natCast small
  · rw [Int.natAbs_neg, Int.natAbs_natCast] at small
    obtain ⟨u, stands⟩ := exists_stands_natCast small
    rw [Int.cast_neg, Int.cast_natCast]
    exact ⟨u.neg, stands.neg⟩

/-- Of two numbers the one that is further from zero by exponent and mantissa stands for more. -/
theorem magnitude_lt {s s' : Sign} {m m' : ℕ} {e e' : ℤ} {pos : 0 < m} {pos' : 0 < m'}
    (held : Held (.finite s m e pos)) (held' : Held (.finite s' m' e' pos'))
    (nearer : distance m e < distance m' e') : (m : ℚ) * 2 ^ e < m' * 2 ^ e' := by
  obtain ⟨small, low, _, _⟩ := held
  obtain ⟨small', _, _, full'⟩ := held'
  rw [distance, distance] at nearer
  have unit (j : ℤ) : (0 : ℚ) < 2 ^ j := zpow_pos two_pos j
  rcases Int.lt_trichotomy e e' with below | rfl | above
  · have full : (0x10000000000000 : ℚ) ≤ m' := by
      have normal : 0x10000000000000 ≤ m' := full'.resolve_right (by omega)
      exact_mod_cast normal
    have step : (2 : ℚ) ^ (e + 1) ≤ 2 ^ e' := zpow_le_zpow_right₀ one_le_two below
    calc (m : ℚ) * 2 ^ e
        < 0x20000000000000 * 2 ^ e :=
          mul_lt_mul_of_pos_right (by exact_mod_cast small) (unit e)
      _ = 0x10000000000000 * 2 ^ (e + 1) := by
          rw [zpow_add_one₀ two_ne_zero]
          ring
      _ ≤ m' * 2 ^ e' := mul_le_mul full step (unit _).le (Nat.cast_nonneg m')
  · have less : m < m' := by omega
    exact mul_lt_mul_of_pos_right (Nat.cast_lt.mpr less) (unit e)
  · omega

/-- The line of all numbers runs as the rationals do. -/
theorem Stands.lt_of_placeOf_lt (stands : Stands u a) (stands' : Stands w b)
    (before : placeOf u < placeOf w) : a < b := by
  have unit (j : ℤ) : (0 : ℚ) < 2 ^ j := zpow_pos two_pos j
  obtain ⟨held, value⟩ := stands
  obtain ⟨held', value'⟩ := stands'
  cases u with
  | notANumber | infinity => cases value
  | zero s =>
    obtain rfl := Option.some.inj value
    cases w with
    | notANumber | infinity => cases value'
    | zero s' => exact absurd before (lt_irrefl 0)
    | finite s' m' e' pos' =>
      obtain rfl := Option.some.inj value'
      have far := (distance_bounds held').1
      have positive : (0 : ℚ) < m' * 2 ^ e' := mul_pos (Nat.cast_pos.mpr pos') (unit e')
      cases s' <;> dsimp only [placeOf, Sign.apply] at before ⊢
      · omega
      · exact positive
  | finite s m e pos =>
    obtain rfl := Option.some.inj value
    have far := (distance_bounds held).1
    have positive : (0 : ℚ) < m * 2 ^ e := mul_pos (Nat.cast_pos.mpr pos) (unit e)
    cases w with
    | notANumber | infinity => cases value'
    | zero s' =>
      obtain rfl := Option.some.inj value'
      cases s <;> dsimp only [placeOf, Sign.apply] at before ⊢
      · push_cast
        linarith
      · omega
    | finite s' m' e' pos' =>
      obtain rfl := Option.some.inj value'
      have far' := (distance_bounds held').1
      have positive' : (0 : ℚ) < m' * 2 ^ e' := mul_pos (Nat.cast_pos.mpr pos') (unit e')
      cases s <;> cases s' <;> dsimp only [placeOf, Sign.apply] at before ⊢ <;> push_cast
      case negative.negative =>
        have nearer := magnitude_lt held' held (by omega)
        linarith
      case negative.positive => linarith
      case positive.negative => omega
      case positive.positive => exact magnitude_lt held held' before

variable {x y : Float} {k l : ℤ}

theorem stands_of_value? (value : value? x = some a) : Stands x.toModel.unpack a := ⟨held x, value⟩

theorem place_le_of_le (value : value? x = some a) (value' : value? y = some b) (below : a ≤ b) :
    place x ≤ place y := by
  by_contra after
  have above : b < a :=
    (stands_of_value? value').lt_of_placeOf_lt (stands_of_value? value) (Int.not_le.mp after)
  exact absurd below (not_le.mpr above)

theorem not_isNaN_of_value? (value : value? x = some a) : ¬ x.isNaN := by
  intro nan
  rw [value?, isNaN_iff.mp nan] at value
  cases value

theorem not_isInf_of_value? (value : value? x = some a) : ¬ x.isInf := by
  intro infinite
  change x.toModel.unpack.isInf at infinite
  rw [value?] at value
  cases unpacked : x.toModel.unpack with
  | infinity s =>
    rw [unpacked] at value
    cases value
  | notANumber | zero | finite =>
    rw [unpacked] at infinite
    cases infinite

theorem value?_neg (value : value? x = some a) : value? (-x) = some (-a) := by
  rw [value?, unpack_neg]
  exact (stands_of_value? value).neg.value

/-- Whole numbers up to 2^53 are converted without loss. -/
theorem value?_ofInt (small : k.natAbs ≤ 2 ^ 53) : value? (ofInt k) = some k := by
  obtain ⟨u, stands⟩ := exists_stands_intCast small
  have scaled : (k : ℚ) * 2 ^ (0 : ℤ) = k := by rw [zpow_zero, mul_one]
  have normal : Stands (UnpackedFloat.ofInt Format.binary64 k) k := by
    rw [← scaled] at stands ⊢
    exact stands.normalize .positive
  rw [value?]
  change rational? (unpack Format.binary64 (pack Format.binary64 _)) = _
  rw [unpack_pack normal.held]
  exact normal.value

/-- Whole numbers are subtracted without loss if they are no more than 2^53 apart. -/
theorem value?_sub (value : value? x = some (k : ℚ)) (value' : value? y = some (l : ℚ))
    (small : (k - l).natAbs ≤ 2 ^ 53) : value? (x - y) = some ((k - l : ℤ) : ℚ) := by
  obtain ⟨v, difference⟩ := exists_stands_intCast small
  rw [Int.cast_sub] at difference ⊢
  have stands := (stands_of_value? value).sub (stands_of_value? value') difference
  rw [value?]
  change rational? (unpack Format.binary64 (pack Format.binary64 _)) = _
  rw [unpack_pack stands.held]
  exact stands.value

end Sieve.Number
