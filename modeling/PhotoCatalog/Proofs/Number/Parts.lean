import PhotoCatalog.Proofs.Number.Bits
import PhotoCatalog.Proofs.Number.Nearest

/-!
A double from its parts.  What a double stands for determines it, its sign included.
-/

namespace PhotoCatalog.Number

open Float.Model

/-- A double of this sign and size. -/
def withSign (negative : Bool) (size : Float) : Float := if negative then -size else size

variable {x : Float} {negative : Bool} {significand : Nat} {exponent : Int}

/-- A double is its size with its sign. -/
theorem eq_withSign (hsize : x.toBits.toNat % 2 ^ 63 ≤ 2047 * 2 ^ 52) :
    x = withSign (2 ^ 63 ≤ x.toBits.toNat)
      (Float.ofBits (UInt64.ofNat (x.toBits.toNat % 2 ^ 63))) := by
  have hbits := x.toBits.toNat_lt
  have hself : Float.ofBits (UInt64.ofNat x.toBits.toNat) = x := by
    rw [UInt64.ofNat_toNat, Float.ofBits_toBits]
  rw [withSign]
  split
  · rename_i hnegative
    have hnegative' := of_decide_eq_true hnegative
    rw [neg_ofBits hsize, show 2 ^ 63 + x.toBits.toNat % 2 ^ 63 = x.toBits.toNat by omega, hself]
  · rename_i hpositive
    have hpositive' : ¬ 2 ^ 63 ≤ x.toBits.toNat := fun h => hpositive (decide_eq_true h)
    rw [show x.toBits.toNat % 2 ^ 63 = x.toBits.toNat by omega, hself]

/-- A finite double is put together from its parts. -/
theorem eq_of_partsOf_finite (hparts : partsOf x = .finite negative significand exponent) :
    (significand = 0 ∧ exponent = -1074 ∨ Representable significand exponent) ∧
      x = withSign negative (Float.ofBits (UInt64.ofNat (sizeBits significand exponent))) := by
  have hbits := x.toBits.toNat_lt
  have hsize := @eq_withSign x
  rw [partsOf] at hparts
  generalize x.toBits.toNat = bits at hbits hsize hparts
  split at hparts
  · split at hparts <;> contradiction
  · rename_i hfinite
    have hself := hsize (by omega)
    split at hparts
    · rename_i hzero
      obtain ⟨rfl, rfl, rfl⟩ := Parts.finite.inj hparts
      constructor
      · rcases Nat.eq_zero_or_pos (bits % 2 ^ 52) with hnone | hpositive
        · exact Or.inl ⟨hnone, rfl⟩
        · exact Or.inr ⟨hpositive, by omega, by decide, by decide, Or.inr rfl⟩
      · rw [hself, sizeBits]
        congr 3
        omega
    · rename_i hnormal
      obtain ⟨rfl, rfl, rfl⟩ := Parts.finite.inj hparts
      constructor
      · exact Or.inr ⟨by omega, by omega, by omega, by omega, Or.inl (by omega)⟩
      · rw [hself, sizeBits]
        congr 3
        omega

theorem eq_of_partsOf_infinite (hparts : partsOf x = .infinite negative) :
    x = withSign negative infinity := by
  have hbits := x.toBits.toNat_lt
  have hsize := @eq_withSign x
  rw [partsOf] at hparts
  generalize x.toBits.toNat = bits at hbits hsize hparts
  split at hparts
  · rename_i hlast
    split at hparts
    · obtain rfl := Parts.infinite.inj hparts
      rw [hsize (by omega), show bits % 2 ^ 63 = 2047 * 2 ^ 52 by omega]
      rfl
    · contradiction
  · split at hparts <;> contradiction

/-- There is one double that is no number. -/
theorem eq_of_partsOf_nan (hparts : partsOf x = .nan) : x = undefined := by
  obtain ⟨sign, exponent, mantissa, hjoined⟩ := exists_joined x.toBits.toBitVec
  have hbits : x.toBits.toNat =
      sign.toBitVec.toNat * 2 ^ 63 + exponent.toNat * 2 ^ 52 + mantissa.toNat := by
    rw [← joined_toNat, ← hjoined]
    rfl
  have hexponent := exponent.isLt
  have hmantissa := mantissa.isLt
  rw [partsOf] at hparts
  split at hparts
  · rename_i hlast
    split at hparts
    · contradiction
    · rename_i hfraction
      have hnonzero : mantissa ≠ 0#52 := by
        rintro rfl
        have hzero : (0#52).toNat = 0 := rfl
        omega
      have hcanonical := joined_eq_packedNaN hjoined
        (BitVec.eq_of_toNat_eq (show exponent.toNat = 2047 by omega)) hnonzero
      apply toBitVec_inj.mp
      rw [hjoined, hcanonical]
      rfl
  · split at hparts <;> contradiction

end PhotoCatalog.Number
