import Mathlib.Algebra.Order.Field.Power
import Mathlib.Data.Rat.Cast.Order
import Mathlib.Tactic.FieldSimp
import Mathlib.Tactic.Linarith
import Mathlib.Tactic.NormNum
import Mathlib.Tactic.Positivity
import Mathlib.Tactic.Ring
import PhotoCatalog.Number.Wide

/-!
The rational numbers behind ratios.  Computations on ratios are computations on the numbers that
they stand for; a quotient is rounded to the nearest whole number, and a number lies in the binade
that its ratio tells.
-/

namespace PhotoCatalog.Number

/-- The number that a ratio stands for. -/
def Ratio.value (r : Ratio) : ℚ := r.num / r.den

variable {r : Ratio}

theorem Ratio.ofBinary_den_pos (significand : Nat) (exponent : Int) :
    0 < (Ratio.ofBinary significand exponent).den := by
  rw [ofBinary]
  split
  · exact Nat.one_pos
  · exact Nat.two_pow_pos _

theorem Ratio.ofBinary_num_pos {significand : Nat} (hpos : 0 < significand) (exponent : Int) :
    0 < (Ratio.ofBinary significand exponent).num := by
  rw [ofBinary]
  split
  · exact Nat.mul_pos hpos (Nat.two_pow_pos _)
  · exact hpos

theorem Ratio.ofBinary_value (significand : Nat) (exponent : Int) :
    (Ratio.ofBinary significand exponent).value = significand * (2 : ℚ) ^ exponent := by
  rw [ofBinary, value]
  split
  · rename_i hnonneg
    obtain ⟨n, rfl⟩ := Int.eq_ofNat_of_zero_le hnonneg
    simp
  · rename_i hnegative
    obtain ⟨n, hn⟩ := Int.eq_ofNat_of_zero_le (show 0 ≤ -exponent by omega)
    obtain rfl : exponent = -(n : Int) := by omega
    simp [div_eq_mul_inv]

theorem Ratio.scale_den_pos (hden : 0 < r.den) (power : Int) : 0 < (r.scale power).den := by
  rw [scale]
  split
  · exact hden
  · exact Nat.mul_pos hden (Nat.pow_pos (by decide))

theorem Ratio.scale_num_pos (hnum : 0 < r.num) (power : Int) : 0 < (r.scale power).num := by
  rw [scale]
  split
  · exact Nat.mul_pos hnum (Nat.pow_pos (by decide))
  · exact hnum

theorem Ratio.scale_value (r : Ratio) (power : Int) :
    (r.scale power).value = r.value * (10 : ℚ) ^ power := by
  rw [scale, value, value]
  split
  · rename_i hnonneg
    obtain ⟨n, rfl⟩ := Int.eq_ofNat_of_zero_le hnonneg
    simp [div_mul_eq_mul_div]
  · rename_i hnegative
    obtain ⟨n, hn⟩ := Int.eq_ofNat_of_zero_le (show 0 ≤ -power by omega)
    obtain rfl : power = -(n : Int) := by omega
    simp [div_eq_mul_inv, mul_assoc, mul_comm]

/-- A quotient is rounded down or up, to the nearer side, and in the middle to the even one. -/
theorem roundDiv_cases (num den : Nat) :
    (roundDiv num den = num / den ∧ (2 * (num % den) < den ∨
      2 * (num % den) = den ∧ num / den % 2 = 0)) ∨
    (roundDiv num den = num / den + 1 ∧ (den < 2 * (num % den) ∨
      2 * (num % den) = den ∧ num / den % 2 = 1)) := by
  rw [roundDiv]
  split
  · rename_i hless
    exact Or.inl ⟨rfl, Or.inl hless⟩
  · split
    · rename_i _ hmore
      exact Or.inr ⟨rfl, Or.inl hmore⟩
    · split
      · rename_i hless hmore heven
        exact Or.inl ⟨rfl, Or.inr ⟨by omega, heven⟩⟩
      · rename_i hless hmore hodd
        exact Or.inr ⟨rfl, Or.inr ⟨by omega, by omega⟩⟩

/-- A quotient and its rounding lie at most a half apart. -/
theorem roundDiv_near {num den : Nat} (hden : 0 < den) :
    2 * roundDiv num den * den ≤ 2 * num + den ∧ 2 * num ≤ (2 * roundDiv num den + 1) * den := by
  have hsplit := Nat.div_add_mod num den
  have hrest := Nat.mod_lt num hden
  have hcases := roundDiv_cases num den
  generalize num / den = quotient at hsplit hcases
  generalize num % den = rest at hsplit hrest hcases
  rcases hcases with ⟨hround, hside⟩ | ⟨hround, hside⟩
  all_goals
    rw [hround]
    constructor
    all_goals rcases hside with hside | ⟨hside, _⟩ <;> nlinarith

/-- A whole number at most a half apart from a quotient is its rounding, an odd one if it lies
nearer than that. -/
theorem roundDiv_eq {num den n : Nat} (hden : 0 < den) (hlow : 2 * n * den ≤ 2 * num + den)
    (hhigh : 2 * num ≤ (2 * n + 1) * den)
    (htie : n % 2 = 0 ∨ 2 * n * den < 2 * num + den ∧ 2 * num < (2 * n + 1) * den) :
    roundDiv num den = n := by
  have hsplit := Nat.div_add_mod num den
  have hrest := Nat.mod_lt num hden
  have hcases := roundDiv_cases num den
  generalize num / den = quotient at hsplit hcases
  generalize num % den = rest at hsplit hrest hcases
  have hbelow : quotient ≤ n := by
    by_contra hmore
    have hstep : n + 1 ≤ quotient := by omega
    nlinarith [Nat.mul_le_mul_left den hstep]
  have habove : n ≤ quotient + 1 := by
    by_contra hmore
    have hstep : quotient + 2 ≤ n := by omega
    nlinarith [Nat.mul_le_mul_left den hstep]
  rcases Nat.lt_or_eq_of_le habove with hless | rfl
  · obtain rfl : quotient = n := by omega
    rcases hcases with ⟨hround, _⟩ | ⟨_, hside⟩
    · exact hround
    · -- Rounding up would mean that the number below lies too far away.
      exfalso
      rcases hside with hside | ⟨hside, hodd⟩
      · nlinarith
      · rcases htie with heven | ⟨_, hstrict⟩
        · omega
        · nlinarith
  · rcases hcases with ⟨_, hside⟩ | ⟨hround, _⟩
    · exfalso
      rcases hside with hside | ⟨hside, heven⟩
      · nlinarith
      · rcases htie with htie | ⟨hstrict, _⟩
        · omega
        · nlinarith
    · exact hround

/-- The lengths of numerator and denominator tell the binade of a positive number but for one. -/
theorem Ratio.value_near (hnum : 0 < r.num) (hden : 0 < r.den) :
    (2 : ℚ) ^ ((Nat.log2 r.num : Int) - Nat.log2 r.den - 1) ≤ r.value ∧
      r.value < (2 : ℚ) ^ ((Nat.log2 r.num : Int) - Nat.log2 r.den + 1) := by
  have hden' : (0 : ℚ) < r.den := by exact_mod_cast hden
  have hnumLow : (2 : ℚ) ^ (Nat.log2 r.num : Int) ≤ r.num := by
    rw [zpow_natCast]
    exact_mod_cast Nat.log2_self_le hnum.ne'
  have hnumHigh : (r.num : ℚ) < (2 : ℚ) ^ ((Nat.log2 r.num : Int) + 1) := by
    have hless : r.num < 2 ^ (Nat.log2 r.num + 1) := Nat.lt_log2_self
    exact_mod_cast hless
  have hdenLow : (2 : ℚ) ^ (Nat.log2 r.den : Int) ≤ r.den := by
    rw [zpow_natCast]
    exact_mod_cast Nat.log2_self_le hden.ne'
  have hdenHigh : (r.den : ℚ) < (2 : ℚ) ^ ((Nat.log2 r.den : Int) + 1) := by
    have hless : r.den < 2 ^ (Nat.log2 r.den + 1) := Nat.lt_log2_self
    exact_mod_cast hless
  constructor
  · rw [Ratio.value, le_div_iff₀ hden']
    calc (2 : ℚ) ^ ((Nat.log2 r.num : Int) - Nat.log2 r.den - 1) * r.den
        ≤ (2 : ℚ) ^ ((Nat.log2 r.num : Int) - Nat.log2 r.den - 1) *
            (2 : ℚ) ^ ((Nat.log2 r.den : Int) + 1) := by gcongr
      _ = (2 : ℚ) ^ (Nat.log2 r.num : Int) := by
          rw [← zpow_add₀ two_ne_zero]
          congr 1
          ring
      _ ≤ r.num := hnumLow
  · rw [Ratio.value, div_lt_iff₀ hden']
    calc (r.num : ℚ) < (2 : ℚ) ^ ((Nat.log2 r.num : Int) + 1) := hnumHigh
      _ = (2 : ℚ) ^ ((Nat.log2 r.num : Int) - Nat.log2 r.den + 1) *
            (2 : ℚ) ^ (Nat.log2 r.den : Int) := by
          rw [← zpow_add₀ two_ne_zero]
          congr 1
          ring
      _ ≤ (2 : ℚ) ^ ((Nat.log2 r.num : Int) - Nat.log2 r.den + 1) * r.den := by gcongr

/-- A positive number lies in the binade that its ratio tells. -/
theorem binaryPoint_spec (hnum : 0 < r.num) (hden : 0 < r.den) :
    (2 : ℚ) ^ binaryPoint r ≤ r.value ∧ r.value < (2 : ℚ) ^ (binaryPoint r + 1) := by
  have hden' : (0 : ℚ) < r.den := by exact_mod_cast hden
  obtain ⟨hlow, hhigh⟩ := Ratio.value_near hnum hden
  have hcheck : (Ratio.ofBinary 1 ((Nat.log2 r.num : Int) - Nat.log2 r.den)).num * r.den ≤
      r.num * (Ratio.ofBinary 1 ((Nat.log2 r.num : Int) - Nat.log2 r.den)).den ↔
      (2 : ℚ) ^ ((Nat.log2 r.num : Int) - Nat.log2 r.den) ≤ r.value := by
    have hunit := Ratio.ofBinary_value 1 ((Nat.log2 r.num : Int) - Nat.log2 r.den)
    have hunitDen : (0 : ℚ) <
        (Ratio.ofBinary 1 ((Nat.log2 r.num : Int) - Nat.log2 r.den)).den := by
      exact_mod_cast Ratio.ofBinary_den_pos _ _
    rw [Nat.cast_one, one_mul, Ratio.value] at hunit
    rw [← hunit, Ratio.value, div_le_div_iff₀ hunitDen hden']
    exact_mod_cast Iff.rfl
  rw [binaryPoint]
  split
  · rename_i hguess
    exact ⟨hcheck.mp hguess, hhigh⟩
  · rename_i hguess
    refine ⟨hlow, ?_⟩
    rw [sub_add_cancel]
    exact not_le.mp fun h => hguess (hcheck.mpr h)

end PhotoCatalog.Number
