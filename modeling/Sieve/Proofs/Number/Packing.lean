/-!
Binary64 numbers as sign, mantissa and exponent, and as 64 bits. Every pattern of bits unpacks to a
number that binary64 holds, packing loses nothing of such a number, and no number is packed as a NaN.
-/

namespace Sieve.Number

open Float.Model (Format UnpackedFloat)
open Float.Model.UnpackedFloat (Sign unpack unpackSign unpackExponent unpackMantissa pack
  packComponents)

/-- As binary64 holds a number: at most 53 binary places, the first of them taken unless the exponent
is the least one. -/
def Held : UnpackedFloat → Prop
  | .finite _ m e _ =>
    m < 0x20000000000000 ∧ -1074 ≤ e ∧ e ≤ 971 ∧ (0x10000000000000 ≤ m ∨ e = -1074)
  | _ => True

/-- The first place of a mantissa is not written if it is taken. -/
theorem toNat_implicit (m : BitVec 52) : (1#1 ++ m).toNat = 0x10000000000000 + m.toNat := by
  rw [BitVec.toNat_append, ← Nat.shiftLeft_add_eq_or_of_lt m.isLt]
  rfl

/-- What the fields of a pattern say. -/
def ofFields (s : Sign) (e : BitVec 11) (m : BitVec 52) : UnpackedFloat :=
  if e = -1#11 then if m = 0#52 then .infinity s else .notANumber
  else if e = 0#11 then
    if zero : m = 0#52 then .zero s
    else .finite s m.toNat (-1074) (by simpa [BitVec.toNat_pos, BitVec.pos_iff_ne_zero])
  else .finite s (1#1 ++ m).toNat (e.toNat - 1075) (by rw [toNat_implicit]; omega)

theorem finite_congr {s : Sign} {m m' : Nat} {e e' : Int} {pos : 0 < m} {pos' : 0 < m'}
    (mantissa : m = m') (exponent : e = e') :
    UnpackedFloat.finite s m e pos = .finite s m' e' pos' := by
  subst mantissa exponent
  rfl

theorem unpack_eq (b : BitVec Format.binary64.numBits) :
    unpack Format.binary64 b =
      ofFields (Sign.ofBitVec (unpackSign b)) (unpackExponent b) (unpackMantissa b) := by
  rw [ofFields]
  by_cases all : unpackExponent b = -1#11
  · rw [if_pos all]
    exact if_pos all
  · rw [if_neg all]
    refine (if_neg all).trans ?_
    by_cases least : unpackExponent b = 0#11
    · rw [if_pos least, if_pos least]
      by_cases zero : unpackMantissa b = 0#52
      · rw [dif_pos zero, dif_pos zero]
      · rw [dif_neg zero, dif_neg zero]
        refine finite_congr rfl ?_
        rw [least]
        rfl
    · rw [if_neg least, if_neg least]
      rfl

theorem held_ofFields (s : Sign) (e : BitVec 11) (m : BitVec 52) : Held (ofFields s e m) := by
  have bound : m.toNat < 0x10000000000000 := m.isLt
  have range : e.toNat < 2048 := e.isLt
  rw [ofFields]
  by_cases all : e = -1#11
  · rw [if_pos all]
    split <;> trivial
  · rw [if_neg all]
    by_cases least : e = 0#11
    · rw [if_pos least]
      by_cases zero : m = 0#52
      · rw [dif_pos zero]
        trivial
      · rw [dif_neg zero]
        refine ⟨?_, ?_, ?_, .inr rfl⟩ <;> omega
    · rw [if_neg least]
      have top : e.toNat ≠ 2047 := fun same => all (BitVec.eq_of_toNat_eq same)
      have bottom : e.toNat ≠ 0 := fun same => least (BitVec.eq_of_toNat_eq same)
      have implicit := toNat_implicit m
      refine ⟨?_, ?_, ?_, .inl ?_⟩ <;> omega

theorem held_unpack (b : BitVec Format.binary64.numBits) : Held (unpack Format.binary64 b) :=
  unpack_eq b ▸ held_ofFields _ _ _

/-- The sign is the bit above all others. -/
theorem sign_packComponents (s : Sign) (e : BitVec 11) (m : BitVec 52) :
    Sign.ofBitVec (unpackSign (packComponents Format.binary64 s e m)) = s := by
  have top : (s.toBitVec ++ e ++ m).getLsbD 63 = s.toBitVec.getLsbD 0 := by
    rw [BitVec.getLsbD_append, BitVec.getLsbD_append]
    rfl
  have above : unpackSign (packComponents Format.binary64 s e m) = s.toBitVec := by
    refine BitVec.eq_of_getLsbD_eq_iff.mpr fun i inside => ?_
    obtain rfl : i = 0 := Nat.lt_one_iff.mp inside
    exact (BitVec.getLsbD_extractLsb' ..).trans top
  rw [above]
  cases s <;> rfl

theorem unpack_packComponents (s : Sign) (e : BitVec 11) (m : BitVec 52) :
    unpack Format.binary64 (packComponents Format.binary64 s e m) = ofFields s e m := by
  rw [unpack_eq, sign_packComponents, UnpackedFloat.unpackExponent_packComponents,
    UnpackedFloat.unpackMantissa_packComponents]

theorem log2_full_iff {m : Nat} (pos : 0 < m) (small : m < 0x20000000000000) :
    m.log2 + 1 = Format.binary64.mantissaBits ↔ 0x10000000000000 ≤ m := by
  have lower : 52 ≤ m.log2 ↔ 0x10000000000000 ≤ m := Nat.le_log2 (Nat.ne_of_gt pos)
  have upper : m.log2 < 53 := (Nat.log2_lt (Nat.ne_of_gt pos)).mpr small
  have bits : Format.binary64.mantissaBits = 53 := rfl
  omega

theorem pack_finite (s : Sign) (m : Nat) (e : Int) (pos : 0 < m) :
    pack Format.binary64 (.finite s m e pos) =
      if 2048 ≤ (e + 1075).toNat + 1 then pack Format.binary64 (.infinity s)
      else if m.log2 + 1 = Format.binary64.mantissaBits then
        packComponents Format.binary64 s (BitVec.ofNat 11 (e + 1075).toNat) (BitVec.ofNat 52 m)
      else packComponents Format.binary64 s 0#11 (BitVec.ofNat 52 m) := by
  have biased : e + Format.binary64.exponentBias + (52 : Nat) = e + 1075 := by
    have bias : (Format.binary64.exponentBias : Int) = 1023 := rfl
    omega
  rw [← biased]
  rfl

theorem pack_of_held {s : Sign} {m : Nat} {e : Int} {pos : 0 < m}
    (held : Held (.finite s m e pos)) :
    pack Format.binary64 (.finite s m e pos) = packComponents Format.binary64 s
      (if 0x10000000000000 ≤ m then BitVec.ofNat 11 (e + 1075).toNat else 0#11)
      (BitVec.ofNat 52 m) := by
  obtain ⟨small, low, high, _⟩ := held
  have within : ¬ 2048 ≤ (e + 1075).toNat + 1 := by omega
  rw [pack_finite, if_neg within]
  by_cases normal : 0x10000000000000 ≤ m
  · rw [if_pos normal, if_pos ((log2_full_iff pos small).mpr normal)]
  · rw [if_neg normal, if_neg (mt (log2_full_iff pos small).mp normal)]

/-- A number that binary64 holds is packed without loss. -/
theorem unpack_pack {u : UnpackedFloat} (held : Held u) :
    unpack Format.binary64 (pack Format.binary64 u) = u := by
  cases u with
  | notANumber => rfl
  | infinity s => cases s <;> rfl
  | zero s => cases s <;> rfl
  | finite s m e pos =>
    rw [pack_of_held held, unpack_packComponents, ofFields]
    obtain ⟨small, low, high, full⟩ := held
    by_cases normal : 0x10000000000000 ≤ m
    · have biased : (BitVec.ofNat 11 (e + 1075).toNat).toNat = (e + 1075).toNat := by
        rw [BitVec.toNat_ofNat, Nat.mod_eq_of_lt (by omega)]
      have notAll : BitVec.ofNat 11 (e + 1075).toNat ≠ -1#11 := by
        intro same
        have top : (e + 1075).toNat = 2047 := biased ▸ congrArg BitVec.toNat same
        omega
      have notLeast : BitVec.ofNat 11 (e + 1075).toNat ≠ 0#11 := by
        intro same
        have bottom : (e + 1075).toNat = 0 := biased ▸ congrArg BitVec.toNat same
        omega
      have mantissa : (1#1 ++ BitVec.ofNat 52 m).toNat = m := by
        rw [toNat_implicit, BitVec.toNat_ofNat]
        omega
      have exponent : ((BitVec.ofNat 11 (e + 1075).toNat).toNat : Int) - 1075 = e := by
        rw [biased]
        omega
      rw [if_pos normal, if_neg notAll, if_neg notLeast]
      exact finite_congr mantissa exponent
    · obtain rfl : e = -1074 := full.resolve_left normal
      have mantissa : (BitVec.ofNat 52 m).toNat = m := by
        rw [BitVec.toNat_ofNat, Nat.mod_eq_of_lt (by omega)]
      have notZero : BitVec.ofNat 52 m ≠ 0#52 := by
        intro same
        have none : m = 0 := mantissa ▸ congrArg BitVec.toNat same
        omega
      have notAll : 0#11 ≠ -1#11 := by decide
      rw [if_neg normal, if_neg notAll, if_pos rfl, dif_neg notZero]
      exact finite_congr mantissa rfl

theorem unpack_packComponents_ne_notANumber (s : Sign) {e : BitVec 11} (m : BitVec 52)
    (notAll : e ≠ -1#11) :
    unpack Format.binary64 (packComponents Format.binary64 s e m) ≠ .notANumber := by
  rw [unpack_packComponents, ofFields, if_neg notAll]
  by_cases least : e = 0#11
  · rw [if_pos least]
    by_cases zero : m = 0#52
    · rw [dif_pos zero]
      rintro ⟨⟩
    · rw [dif_neg zero]
      rintro ⟨⟩
  · rw [if_neg least]
    rintro ⟨⟩

/-- Numbers that are too large are packed as infinities, and never as a NaN. -/
theorem unpack_pack_ne_notANumber {u : UnpackedFloat} (number : u ≠ .notANumber) :
    unpack Format.binary64 (pack Format.binary64 u) ≠ .notANumber := by
  have infinite (s : Sign) :
      unpack Format.binary64 (pack Format.binary64 (.infinity s)) ≠ .notANumber := by
    have kept : Held (.infinity s) := trivial
    rw [unpack_pack kept]
    rintro ⟨⟩
  cases u with
  | notANumber => exact absurd rfl number
  | infinity s => exact infinite s
  | zero s =>
    have kept : Held (.zero s) := trivial
    rw [unpack_pack kept]
    rintro ⟨⟩
  | finite s m e pos =>
    rw [pack_finite]
    generalize (e + 1075).toNat = biased
    split
    · exact infinite s
    · next within =>
      have notAll : BitVec.ofNat 11 biased ≠ -1#11 := by
        intro same
        have top : biased % 2048 = 2047 := by simpa using congrArg BitVec.toNat same
        omega
      split
      · exact unpack_packComponents_ne_notANumber s _ notAll
      · exact unpack_packComponents_ne_notANumber s _ (by decide)

end Sieve.Number
