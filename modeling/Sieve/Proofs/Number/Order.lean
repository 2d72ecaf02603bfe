import Mathlib.Logic.Basic
import Sieve.Proofs.Number.Packing

/-!
The order of binary64 numbers. Every number but NaN has a place on one line of whole numbers: numbers
compare as their places do, and negation and absolute value mirror the places. A difference is a
number except where two infinities of one sign meet.
-/

namespace Sieve.Number

open Float.Model (Format UnpackedFloat)
open Float.Model.UnpackedFloat (Sign Accuracy unpack pack)

/-- How far a number is from zero, counted in places: by its exponent first, then by its mantissa. -/
def distance (m : Nat) (e : Int) : Int := (e + 1074) * 0x20000000000000 + m

/-- The place on the line of all numbers; both zeros stand at 0. -/
def placeOf : UnpackedFloat → Int
  | .notANumber | .zero _ => 0
  | .finite s m e _ => s.apply (distance m e)
  | .infinity s => s.apply 0x10000000000000000

theorem distance_bounds {s : Sign} {m : Nat} {e : Int} {pos : 0 < m}
    (held : Held (.finite s m e pos)) : 0 < distance m e ∧ distance m e < 0x10000000000000000 := by
  obtain ⟨small, low, high, _⟩ := held
  constructor <;> rw [distance] <;> omega

theorem compare_distance {m m' : Nat} {e e' : Int} (small : m < 0x20000000000000)
    (small' : m' < 0x20000000000000) :
    (compare e e').then (compare m m') = compare (distance m e) (distance m' e') := by
  rw [distance, distance]
  rcases Int.lt_trichotomy e e' with below | rfl | above
  · rw [Int.compare_eq_lt.mpr below, Int.compare_eq_lt.mpr (by omega)]
    rfl
  · rw [Int.compare_eq_eq.mpr rfl]
    rcases Nat.lt_trichotomy m m' with below | rfl | above
    · rw [Nat.compare_eq_lt.mpr below, Int.compare_eq_lt.mpr (by omega)]
      rfl
    · rw [Nat.compare_eq_eq.mpr rfl, Int.compare_eq_eq.mpr rfl]
      rfl
    · rw [Nat.compare_eq_gt.mpr above, Int.compare_eq_gt.mpr (by omega)]
      rfl
  · rw [Int.compare_eq_gt.mpr above, Int.compare_eq_gt.mpr (by omega)]
    rfl

theorem compare_neg (a b : Int) : compare (-a) (-b) = (compare a b).swap := by
  rw [Int.compare_swap]
  rcases Int.lt_trichotomy a b with below | rfl | above
  · rw [Int.compare_eq_gt.mpr (by omega), Int.compare_eq_gt.mpr below]
  · rw [Int.compare_eq_eq.mpr rfl, Int.compare_eq_eq.mpr rfl]
  · rw [Int.compare_eq_lt.mpr (by omega), Int.compare_eq_lt.mpr above]

variable {u w : UnpackedFloat}

theorem compare_of_below (below : placeOf u < placeOf w) (answered : u.compare w = some .lt) :
    u.compare w = some (compare (placeOf u) (placeOf w)) := by
  rw [answered, Int.compare_eq_lt.mpr below]

theorem compare_of_above (above : placeOf w < placeOf u) (answered : u.compare w = some .gt) :
    u.compare w = some (compare (placeOf u) (placeOf w)) := by
  rw [answered, Int.compare_eq_gt.mpr above]

theorem compare_finite {s s' : Sign} {m m' : Nat} {e e' : Int} {pos : 0 < m} {pos' : 0 < m'}
    (held : Held (.finite s m e pos)) (held' : Held (.finite s' m' e' pos')) :
    UnpackedFloat.compare (.finite s m e pos) (.finite s' m' e' pos') =
      some (compare (placeOf (.finite s m e pos)) (placeOf (.finite s' m' e' pos'))) := by
  have bounds := distance_bounds held
  have bounds' := distance_bounds held'
  have nearer : (compare e e').then (compare m m') = compare (distance m e) (distance m' e') :=
    compare_distance held.1 held'.1
  cases s <;> cases s'
  case negative.negative =>
    change some ((compare e e').then (compare m m')).swap = _
    rw [nearer, ← compare_neg]
    rfl
  case negative.positive =>
    exact compare_of_below (by dsimp only [placeOf, Sign.apply]; omega) rfl
  case positive.negative =>
    exact compare_of_above (by dsimp only [placeOf, Sign.apply]; omega) rfl
  case positive.positive => exact congrArg some nearer

/-- Numbers that binary64 holds compare as their places do. -/
theorem compare_placeOf (held : Held u) (held' : Held w) (number : u ≠ .notANumber)
    (number' : w ≠ .notANumber) : u.compare w = some (compare (placeOf u) (placeOf w)) := by
  cases u with
  | notANumber => exact absurd rfl number
  | infinity s =>
    cases w with
    | notANumber => exact absurd rfl number'
    | infinity s' => cases s <;> cases s' <;> rfl
    | zero s' => cases s <;> rfl
    | finite s' m' e' pos' =>
      have bounds := distance_bounds held'
      cases s with
      | negative =>
        refine compare_of_below ?_ rfl
        cases s' <;> dsimp only [placeOf, Sign.apply] <;> omega
      | positive =>
        refine compare_of_above ?_ rfl
        cases s' <;> dsimp only [placeOf, Sign.apply] <;> omega
  | zero s =>
    cases w with
    | notANumber => exact absurd rfl number'
    | infinity s' => cases s' <;> rfl
    | zero s' => rfl
    | finite s' m' e' pos' =>
      have bounds := distance_bounds held'
      cases s' with
      | negative => exact compare_of_above (by dsimp only [placeOf, Sign.apply]; omega) rfl
      | positive => exact compare_of_below bounds.1 rfl
  | finite s m e pos =>
    have bounds := distance_bounds held
    cases w with
    | notANumber => exact absurd rfl number'
    | infinity s' =>
      cases s' with
      | negative =>
        refine compare_of_above ?_ (by cases s <;> rfl)
        cases s <;> dsimp only [placeOf, Sign.apply] <;> omega
      | positive =>
        refine compare_of_below ?_ (by cases s <;> rfl)
        cases s <;> dsimp only [placeOf, Sign.apply] <;> omega
    | zero s' =>
      cases s with
      | negative => exact compare_of_below (by dsimp only [placeOf, Sign.apply]; omega) rfl
      | positive => exact compare_of_above bounds.1 rfl
    | finite s' m' e' pos' => exact compare_finite held held'

theorem placeOf_neg (u : UnpackedFloat) : placeOf u.neg = -placeOf u := by
  cases u with
  | notANumber | zero => rfl
  | finite s | infinity s =>
    cases s with
    | positive => rfl
    | negative => exact (Int.neg_neg _).symm

theorem placeOf_abs (held : Held u) : placeOf u.abs = (placeOf u).natAbs := by
  cases u with
  | notANumber | zero => rfl
  | infinity s => cases s <;> rfl
  | finite s m e pos =>
    have bounds := distance_bounds held
    cases s <;> dsimp only [UnpackedFloat.abs, placeOf, Sign.apply] <;> omega

theorem held (x : Float) : Held x.toModel.unpack := held_unpack _

def place (x : Float) : Int := placeOf x.toModel.unpack

variable {x y : Float}

theorem isNaN_iff : x.isNaN ↔ x.toModel.unpack = .notANumber := by
  change x.toModel.unpack.isNaN ↔ _
  cases x.toModel.unpack with
  | notANumber => exact iff_of_true rfl rfl
  | infinity | zero | finite => exact iff_of_false Bool.false_ne_true nofun

theorem not_isNaN_of_isFinite (finite : x.isFinite) : ¬ x.isNaN := by
  intro nan
  change x.toModel.unpack.isFinite at finite
  rw [isNaN_iff.mp nan] at finite
  cases finite

theorem compare_place (number : ¬ x.isNaN) (number' : ¬ y.isNaN) :
    x.toModel.unpack.compare y.toModel.unpack = some (compare (place x) (place y)) :=
  compare_placeOf (held x) (held y) (mt isNaN_iff.mpr number) (mt isNaN_iff.mpr number')

theorem compare_isNaN (nan : x.isNaN ∨ y.isNaN) :
    x.toModel.unpack.compare y.toModel.unpack = none := by
  rcases nan with nan | nan <;> rw [isNaN_iff] at nan <;> rw [nan]
  · rfl
  · cases x.toModel.unpack <;> rfl

theorem le_iff_unpacked : x ≤ y ↔ x.toModel.unpack.le y.toModel.unpack := by
  change decide (x.toModel ≤ y.toModel) = true ↔ _
  rw [decide_eq_true_iff]
  rfl

theorem lt_iff_unpacked : x < y ↔ x.toModel.unpack.lt y.toModel.unpack := by
  change decide (x.toModel < y.toModel) = true ↔ _
  rw [decide_eq_true_iff]
  rfl

theorem le_iff (number : ¬ x.isNaN) (number' : ¬ y.isNaN) : x ≤ y ↔ place x ≤ place y := by
  rw [le_iff_unpacked, UnpackedFloat.le, compare_place number number', Option.any_some,
    Int.isLE_compare]

theorem lt_iff (number : ¬ x.isNaN) (number' : ¬ y.isNaN) : x < y ↔ place x < place y := by
  rw [lt_iff_unpacked, UnpackedFloat.lt, compare_place number number', beq_iff_eq, Option.some.injEq,
    Int.compare_eq_lt]

/-- Nothing is as great as a NaN, and a NaN is not as great as anything. -/
theorem not_le_of_isNaN (nan : x.isNaN ∨ y.isNaN) : ¬ x ≤ y := by
  rw [le_iff_unpacked, UnpackedFloat.le, compare_isNaN nan]
  exact Bool.false_ne_true

theorem not_lt_of_isNaN (nan : x.isNaN ∨ y.isNaN) : ¬ x < y := by
  rw [lt_iff_unpacked, UnpackedFloat.lt, compare_isNaN nan]
  exact Bool.false_ne_true

theorem le_iff_place : x ≤ y ↔ ¬ x.isNaN ∧ ¬ y.isNaN ∧ place x ≤ place y := by
  by_cases nan : x.isNaN ∨ y.isNaN
  · exact iff_of_false (not_le_of_isNaN nan) fun all => nan.elim all.1 all.2.1
  · rw [not_or] at nan
    rw [le_iff nan.1 nan.2, and_iff_right nan.1, and_iff_right nan.2]

theorem lt_iff_place : x < y ↔ ¬ x.isNaN ∧ ¬ y.isNaN ∧ place x < place y := by
  by_cases nan : x.isNaN ∨ y.isNaN
  · exact iff_of_false (not_lt_of_isNaN nan) fun all => nan.elim all.1 all.2.1
  · rw [not_or] at nan
    rw [lt_iff nan.1 nan.2, and_iff_right nan.1, and_iff_right nan.2]

theorem le_trans {z : Float} (below : x ≤ y) (below' : y ≤ z) : x ≤ z := by
  rw [le_iff_place] at below below' ⊢
  obtain ⟨number, _, places⟩ := below
  obtain ⟨_, number', places'⟩ := below'
  exact ⟨number, number', by omega⟩

theorem lt_of_le_of_lt {z : Float} (below : x ≤ y) (below' : y < z) : x < z := by
  rw [le_iff_place] at below
  rw [lt_iff_place] at below' ⊢
  obtain ⟨number, _, places⟩ := below
  obtain ⟨_, number', places'⟩ := below'
  exact ⟨number, number', by omega⟩

theorem unpack_neg (x : Float) : (-x).toModel.unpack = x.toModel.unpack.neg := by
  refine unpack_pack ?_
  have held := held x
  cases unpacked : x.toModel.unpack <;> rw [unpacked] at held <;> exact held

theorem unpack_abs (x : Float) : x.abs.toModel.unpack = x.toModel.unpack.abs := by
  refine unpack_pack ?_
  have held := held x
  cases unpacked : x.toModel.unpack <;> rw [unpacked] at held <;> exact held

theorem place_neg (x : Float) : place (-x) = -place x := by
  rw [place, unpack_neg, placeOf_neg, place]

theorem place_abs (x : Float) : place x.abs = (place x).natAbs := by
  rw [place, unpack_abs, placeOf_abs (held x), place]

theorem isNaN_neg : (-x).isNaN ↔ x.isNaN := by
  rw [isNaN_iff, isNaN_iff, unpack_neg]
  cases x.toModel.unpack with
  | notANumber => exact iff_of_true rfl rfl
  | infinity | zero | finite => exact iff_of_false nofun nofun

theorem isNaN_abs : x.abs.isNaN ↔ x.isNaN := by
  rw [isNaN_iff, isNaN_iff, unpack_abs]
  cases x.toModel.unpack with
  | notANumber => exact iff_of_true rfl rfl
  | infinity | zero | finite => exact iff_of_false nofun nofun

/-- Negation turns the order round. -/
theorem neg_le_neg (below : x ≤ y) : -y ≤ -x := by
  rw [le_iff_place] at below ⊢
  obtain ⟨number, number', places⟩ := below
  rw [isNaN_neg, isNaN_neg, place_neg, place_neg]
  exact ⟨number', number, by omega⟩

theorem nonneg_iff : 0 ≤ x ↔ ¬ x.isNaN ∧ 0 ≤ place x := by
  have zero : ¬ (0 : Float).isNaN := by decide
  have stands : place 0 = 0 := by decide
  by_cases nan : x.isNaN
  · exact iff_of_false (not_le_of_isNaN (Or.inr nan)) fun both => both.1 nan
  · rw [le_iff zero nan, stands, and_iff_right nan]

theorem neg_nonpos_iff : -x ≤ 0 ↔ 0 ≤ x := by
  have zero : ¬ (0 : Float).isNaN := by decide
  have stands : place 0 = 0 := by decide
  by_cases nan : x.isNaN
  · exact iff_of_false (not_le_of_isNaN (Or.inl (isNaN_neg.mpr nan)))
      (not_le_of_isNaN (Or.inr nan))
  · rw [le_iff (mt isNaN_neg.mp nan) zero, le_iff zero nan, stands, place_neg]
    omega

theorem roundWithAccuracy_ne_notANumber (f : Format) (s : Sign) (m : Nat) (e : Int) (a : Accuracy) :
    UnpackedFloat.roundWithAccuracy f s m e a ≠ .notANumber := by
  rw [UnpackedFloat.roundWithAccuracy, Ne, dite_eq_iff]
  rintro (⟨_, ⟨⟩⟩ | ⟨_, ⟨⟩⟩)

theorem normalize_ne_notANumber (f : Format) (m e : Int) (s : Sign) :
    UnpackedFloat.normalize f m e s ≠ .notANumber := by
  rw [UnpackedFloat.normalize]
  split
  · exact roundWithAccuracy_ne_notANumber _ _ _ _ _
  · exact nofun
  · exact roundWithAccuracy_ne_notANumber _ _ _ _ _

theorem sub_ne_notANumber (f : Format) (number : u ≠ .notANumber) (number' : w ≠ .notANumber)
    (apart : ∀ s, ¬ (u = .infinity s ∧ w = .infinity s)) :
    UnpackedFloat.sub f u w ≠ .notANumber := by
  cases u with
  | notANumber => exact absurd rfl number
  | infinity s =>
    cases w with
    | notANumber => exact absurd rfl number'
    | infinity s' =>
      have opposed : s == -s' := by
        cases s <;> cases s' <;> first | rfl | exact absurd ⟨rfl, rfl⟩ (apart _)
      have answered : UnpackedFloat.sub f (.infinity s) (.infinity s') = .infinity s := if_pos opposed
      rw [answered]
      exact nofun
    | zero | finite => exact nofun
  | zero s =>
    cases w with
    | notANumber => exact absurd rfl number'
    | zero s' =>
      change (if s == -s' then UnpackedFloat.zero s else .zero .positive) ≠ _
      split <;> exact nofun
    | infinity | finite => exact nofun
  | finite s m e pos =>
    cases w with
    | notANumber => exact absurd rfl number'
    | zero | infinity => exact nofun
    | finite s' m' e' pos' => exact normalize_ne_notANumber _ _ _ _

/-- The difference of two numbers that are not the same infinity is a number. -/
theorem isNaN_sub (number : ¬ x.isNaN) (number' : ¬ y.isNaN) (apart : ¬ (x.isInf ∧ x == y)) :
    ¬ (x - y).isNaN := by
  rw [isNaN_iff]
  refine unpack_pack_ne_notANumber (sub_ne_notANumber _ (mt isNaN_iff.mpr number)
    (mt isNaN_iff.mpr number') ?_)
  rintro s ⟨ofX, ofY⟩
  refine apart ⟨?_, ?_⟩
  · change x.toModel.unpack.isInf
    rw [ofX]
    rfl
  · change x.toModel.unpack.compare y.toModel.unpack == some .eq
    rw [ofX, ofY]
    cases s <;> rfl

/-- A finite number less itself is zero. -/
theorem sub_self (finite : x.isFinite) : x - x = 0 := by
  have same : UnpackedFloat.sub Format.binary64 x.toModel.unpack x.toModel.unpack =
      .zero .positive := by
    change x.toModel.unpack.isFinite at finite
    cases unpacked : x.toModel.unpack with
    | notANumber | infinity =>
      rw [unpacked] at finite
      cases finite
    | zero s => cases s <;> rfl
    | finite s m e pos =>
      change UnpackedFloat.normalize _ (_ - _) _ _ = _
      rw [Int.sub_self]
      rfl
  change Float.ofModel (.pack (UnpackedFloat.sub _ _ _)) = _
  rw [same]
  decide

end Sieve.Number
