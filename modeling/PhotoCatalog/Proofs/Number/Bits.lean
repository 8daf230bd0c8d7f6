import Mathlib
import PhotoCatalog.Number.Binary

/-!
Doubles and their bits.  The bits of a double are joined from sign, exponent and fraction and survive
being unpacked, and to change its sign is to change the first one of them.
-/

namespace PhotoCatalog.Number

open Float.Model Float.Model.UnpackedFloat

variable {sign : Sign} {exponent : BitVec 11} {mantissa : BitVec 52}

/-- The bits of a double, joined from its parts. -/
abbrev joined (sign : Sign) (exponent : BitVec 11) (mantissa : BitVec 52) : BitVec 64 :=
  packComponents Format.binary64 sign exponent mantissa

theorem joined_toNat : (joined sign exponent mantissa).toNat =
    sign.toBitVec.toNat * 2 ^ 63 + exponent.toNat * 2 ^ 52 + mantissa.toNat := by
  have hmantissa := mantissa.isLt
  have hexponent := exponent.isLt
  change (sign.toBitVec ++ exponent ++ mantissa).toNat = _
  rw [BitVec.toNat_append, BitVec.toNat_append, ← Nat.shiftLeft_add_eq_or_of_lt hmantissa,
    ← Nat.shiftLeft_add_eq_or_of_lt hexponent, Nat.shiftLeft_eq, Nat.shiftLeft_eq]
  omega

/-- All bits are joined from some parts. -/
theorem exists_joined (bits : BitVec 64) :
    ∃ sign exponent mantissa, bits = joined sign exponent mantissa :=
  ⟨_, _, _, (@packComponents_unpackSign_unpackExponent_unpackMantissa Format.binary64 bits).symm⟩

/-- What the parts of a double stand for. -/
theorem unpack_joined : UnpackedFloat.unpack Format.binary64 (joined sign exponent mantissa) =
    if exponent = -1#11 then
      if mantissa = 0#52 then .infinity sign else .notANumber
    else if exponent = 0#11 then
      if h : mantissa = 0#52 then .zero sign
      else .finite sign mantissa.toNat (-1074)
        (Nat.pos_of_ne_zero fun hzero => h (BitVec.eq_of_toNat_eq hzero))
    else .finite sign (2 ^ 52 + mantissa.toNat) (exponent.toNat - 1075) (by omega) := by
  have hhidden : (1#1 ++ mantissa).toNat = 2 ^ 52 + mantissa.toNat := by
    rw [BitVec.toNat_append, ← Nat.shiftLeft_add_eq_or_of_lt mantissa.isLt]
    rfl
  have hbias : ((Format.binary64.exponentBias : Nat) : Int) = 1023 := rfl
  simp only [UnpackedFloat.unpack, unpackMantissa_packComponents, unpackExponent_packComponents,
    unpackSign_packComponents, Sign.ofBitVec_toBitVec, hhidden, hbias]
  by_cases hlast : exponent = -1#11
  · simp [hlast]
  · by_cases hzero : exponent = 0#11
    · simp [hzero]
    · simp only [hlast, hzero, ↓reduceIte]
      congr 1

/-- Changing the sign changes the first bit. -/
theorem neg_unpack_joined :
    (UnpackedFloat.unpack Format.binary64 (joined sign exponent mantissa)).neg =
      UnpackedFloat.unpack Format.binary64 (joined (-sign) exponent mantissa) := by
  rw [unpack_joined, unpack_joined]
  split
  · split <;> rfl
  · split
    · split <;> rfl
    · rfl

theorem toBitVec_inj {x y : Float} : x.toBits.toBitVec = y.toBits.toBitVec ↔ x = y := by
  rw [UInt64.toBitVec_inj, Float.toBits_inj]

/-- Bits survive unpacking, apart from those of doubles that are no numbers. -/
theorem toBits_ofBits_joined (hnumber : exponent = -1#11 → mantissa = 0#52) :
    (Float.ofBits (UInt64.ofBitVec (joined sign exponent mantissa))).toBits.toBitVec =
      joined sign exponent mantissa := by
  have hnan : @isNaNBits Format.binary64 (joined sign exponent mantissa) = false := by
    rw [isNaNBits, unpackExponent_packComponents, unpackMantissa_packComponents,
      decide_eq_false_iff_not]
    exact fun h => h.2 (hnumber h.1)
  change UnpackedFloat.pack Format.binary64
    (UnpackedFloat.unpack Format.binary64 (joined sign exponent mantissa)) = _
  rw [pack_unpack, hnan]
  rfl

/-- Among the doubles that are no numbers only one has valid bits. -/
theorem joined_eq_packedNaN {x : Float} (hbits : x.toBits.toBitVec = joined sign exponent mantissa)
    (hlast : exponent = -1#11) (hmantissa : mantissa ≠ 0#52) :
    joined sign exponent mantissa = packedNaN Format.binary64 := by
  have hvalid := x.toModel.valid
  change Format.binary64.Valid x.toBits.toBitVec at hvalid
  rw [hbits] at hvalid
  apply hvalid.eq_packedNaN
  · rw [unpackExponent_packComponents]
    exact hlast
  · rw [unpackMantissa_packComponents]
    exact hmantissa

theorem neg_ofBits_joined (hnumber : exponent = -1#11 → mantissa = 0#52) :
    -(Float.ofBits (UInt64.ofBitVec (joined sign exponent mantissa))) =
      Float.ofBits (UInt64.ofBitVec (joined (-sign) exponent mantissa)) := by
  apply toBitVec_inj.mp
  change UnpackedFloat.pack Format.binary64 (UnpackedFloat.unpack Format.binary64
    (Float.ofBits (UInt64.ofBitVec (joined sign exponent mantissa))).toBits.toBitVec).neg =
    UnpackedFloat.pack Format.binary64
      (UnpackedFloat.unpack Format.binary64 (joined (-sign) exponent mantissa))
  rw [toBits_ofBits_joined hnumber, neg_unpack_joined]

/-- To change the sign of a double is to change its first bit. -/
theorem neg_ofBits {size : Nat} (hsize : size ≤ 2047 * 2 ^ 52) :
    -(Float.ofBits (UInt64.ofNat size)) = Float.ofBits (UInt64.ofNat (2 ^ 63 + size)) := by
  have hjoined : ∀ sign : Sign, UInt64.ofNat (sign.toBitVec.toNat * 2 ^ 63 + size) =
      UInt64.ofBitVec (joined sign (BitVec.ofNat 11 (size / 2 ^ 52)) (BitVec.ofNat 52 size)) := by
    intro sign
    have hbit := sign.toBitVec.isLt
    rw [← UInt64.toNat_inj, UInt64.toNat_ofNat', UInt64.toNat_ofBitVec, joined_toNat,
      BitVec.toNat_ofNat, BitVec.toNat_ofNat]
    omega
  have hzero : Sign.positive.toBitVec.toNat = 0 := rfl
  have hone : Sign.negative.toBitVec.toNat = 1 := rfl
  have hpositive := hjoined .positive
  have hnegative := hjoined .negative
  rw [hzero, Nat.zero_mul, Nat.zero_add] at hpositive
  rw [hone, Nat.one_mul] at hnegative
  rw [hpositive, hnegative]
  apply neg_ofBits_joined
  intro hlast
  have hexponent := congrArg BitVec.toNat hlast
  rw [BitVec.toNat_ofNat] at hexponent
  change size / 2 ^ 52 % 2 ^ 11 = 2047 at hexponent
  apply BitVec.eq_of_toNat_eq
  rw [BitVec.toNat_ofNat]
  change size % 2 ^ 52 = 0
  omega

end PhotoCatalog.Number
