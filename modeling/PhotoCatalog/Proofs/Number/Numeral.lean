import PhotoCatalog.Proofs.Number.Shortest
import PhotoCatalog.Proofs.Text.Digit

/-!
Decimal numerals of doubles.  The fewest digits of a double spell a number of its rounding interval,
and every numeral of such a number is read as the double.
-/

namespace PhotoCatalog.Number

open PhotoCatalog.Text

variable {significand : Nat} {exponent : Int} {q : ℚ}

/-- Numbers that round to a double lie in the range of the doubles. -/
theorem Representable.range (hrep : Representable significand exponent)
    (hvalue : RoundsTo significand exponent q) :
    (10 : ℚ) ^ (-400 : Int) < q ∧ q < (10 : ℚ) ^ (309 : Int) := by
  have hquarter : (0 : ℚ) < (2 : ℚ) ^ (exponent - 2) := by positivity
  have hpositive := hrep.positive
  have hshort := hrep.short
  have hleast := hrep.least
  have hgreatest := hrep.greatest
  constructor
  · have hone : (1 : ℚ) ≤ lowQuarters significand exponent := by
      have hle := @le_lowQuarters significand exponent
      exact_mod_cast (by omega : 1 ≤ lowQuarters significand exponent)
    have hpowers : (2 : ℚ) ^ 1076 < 10 ^ 400 := by
      calc (2 : ℚ) ^ 1076 ≤ 2 ^ (3 * 400) := pow_le_pow_right₀ one_le_two (by omega)
        _ = (2 ^ 3) ^ 400 := pow_mul _ _ _
        _ < 10 ^ 400 := by gcongr; norm_num
    calc (10 : ℚ) ^ (-400 : Int) < (2 : ℚ) ^ (-1076 : Int) :=
          inv_strictAnti₀ (by positivity) hpowers
      _ ≤ (2 : ℚ) ^ (exponent - 2) := zpow_le_zpow_right₀ one_le_two (by omega)
      _ ≤ lowQuarters significand exponent * (2 : ℚ) ^ (exponent - 2) :=
          le_mul_of_one_le_left hquarter.le hone
      _ ≤ q := hvalue.low
  · have hpowers : (2 : ℚ) ^ 1024 < 10 ^ 309 := by
      calc (2 : ℚ) ^ 1024 = (2 ^ 93) ^ 11 * 2 := by rw [← pow_mul, ← pow_succ]
        _ < (10 ^ 28) ^ 11 * 10 := by gcongr <;> norm_num
        _ = 10 ^ 309 := by rw [← pow_mul, ← pow_succ]
    have hless : ((4 * significand + 2 : Nat) : ℚ) ≤ 2 ^ 55 := by
      exact_mod_cast (by omega : 4 * significand + 2 ≤ 2 ^ 55)
    calc q ≤ (4 * significand + 2 : Nat) * (2 : ℚ) ^ (exponent - 2) := hvalue.high
      _ ≤ 2 ^ 55 * (2 : ℚ) ^ (exponent - 2) := by gcongr
      _ = (2 : ℚ) ^ (exponent - 2 + (55 : Nat)) := (power_quarters exponent 55).symm
      _ ≤ (2 : ℚ) ^ (1024 : Int) := zpow_le_zpow_right₀ one_le_two (by omega)
      _ < (10 : ℚ) ^ (309 : Int) := hpowers

/-- A numeral of a number that rounds to a double is read as the double. -/
theorem Representable.ofDecimal_eq (hrep : Representable significand exponent) {n : Nat}
    {power : Int} (hvalue : RoundsTo significand exponent (n * (10 : ℚ) ^ power)) :
    ofDecimal n power = Float.ofBits (UInt64.ofNat (sizeBits significand exponent)) := by
  obtain ⟨hlow, hhigh⟩ := hrep.range hvalue
  have hpos : 0 < n := by
    by_contra hzero
    obtain rfl : n = 0 := by omega
    have hpower : (0 : ℚ) < (10 : ℚ) ^ (-400 : Int) := by positivity
    rw [Nat.cast_zero, zero_mul] at hlow
    linarith
  obtain ⟨hleast, hmost⟩ := digitsOf_length hpos
  have hlength : 0 < (digitsOf n).length := Nat.length_toDigits_pos
  have hten : (1 : ℚ) < 10 := by norm_num
  have hplace : ¬ 400 < ((digitsOf n).length : Int) + power := by
    have habove :
        (10 : ℚ) ^ (((digitsOf n).length - 1 : Nat) + power) < (10 : ℚ) ^ (309 : Int) := by
      rw [zpow_add₀ (by norm_num), zpow_natCast]
      refine lt_of_le_of_lt ?_ hhigh
      gcongr
      exact_mod_cast hleast
    have h := (zpow_lt_zpow_iff_right₀ hten).mp habove
    omega
  have hplace' : ¬ ((digitsOf n).length : Int) + power < -400 := by
    have hbelow : (10 : ℚ) ^ (-400 : Int) < (10 : ℚ) ^ (((digitsOf n).length : Int) + power) := by
      rw [zpow_add₀ (by norm_num), zpow_natCast]
      refine lt_trans hlow ?_
      gcongr
      exact_mod_cast hmost
    have h := (zpow_lt_zpow_iff_right₀ hten).mp hbelow
    omega
  have hratio : (Ratio.ofNat n).value = n := by simp [Ratio.ofNat, Ratio.value]
  rw [ofDecimal]
  simp only [if_neg hpos.ne', if_neg hplace, if_neg hplace']
  apply hrep.toFloat_eq (Ratio.scale_num_pos hpos power) (Ratio.scale_den_pos Nat.one_pos power)
  rw [Ratio.scale_value, hratio]
  exact hvalue

/-- The number that digits with their place stand for. -/
def Digits.value (d : Digits) : ℚ :=
  Nat.ofDigitChars 10 d.digits 0 * (10 : ℚ) ^ (d.point - d.digits.length)

/-- Proper digits, which begin with another one than zero. -/
structure Digits.Proper (d : Digits) : Prop where
  digits : AllDigits d.digits
  head : ∃ c cs, d.digits = c :: cs ∧ c ≠ '0'

/-- Digits that spell a double. -/
structure Digits.Spell (d : Digits) (significand : Nat) (exponent : Int) : Prop
    extends d.Proper where
  value : RoundsTo significand exponent d.value

theorem Digits.Proper.nonempty {d : Digits} (hproper : d.Proper) : d.digits.isEmpty = false := by
  obtain ⟨c, cs, hhead, -⟩ := hproper.head
  rw [hhead]
  rfl

/-- The fewest digits of a double spell it. -/
theorem Representable.spell_shortestDigits (hrep : Representable significand exponent) :
    (shortestDigits significand exponent).Spell significand exponent := by
  rw [shortestDigits]
  generalize hfound : shortestFrom (.ofBinary significand exponent) (.of significand exponent)
    (pointOf (.ofBinary significand exponent)) 1 17 = found
  obtain ⟨n, places⟩ := found
  have hvalue := hrep.roundsTo_shortest hfound
  have hpos : 0 < n := by
    have hpower : (0 : ℚ) < (10 : ℚ) ^ (-400 : Int) := by positivity
    have hpositive := hpower.trans (hrep.range hvalue).1
    by_contra hzero
    obtain rfl : n = 0 := by omega
    rw [Nat.cast_zero, zero_mul] at hpositive
    exact lt_irrefl _ hpositive
  obtain ⟨k, hsplit⟩ := dropZeros_append (digitsOf n)
  obtain ⟨c, cs, hhead, hc⟩ := digitsOf_head hpos
  have hlength := congrArg List.length hsplit
  rw [List.length_append, List.length_replicate] at hlength
  have hspell := ofDigits_digitsOf n
  rw [ofDigits_map, hsplit, Nat.ofDigitChars_append, Nat.ofDigitChars_replicate_zero] at hspell
  refine ⟨⟨?_, ?_⟩, ?_⟩
  · apply (digitsOf_allDigits n).of_subset
    intro d hd
    rw [hsplit]
    exact List.mem_append_left _ hd
  · change ∃ c cs, dropZeros (digitsOf n) = c :: cs ∧ c ≠ '0'
    cases hdrop : dropZeros (digitsOf n) with
    | nil =>
        -- Digits that are all zeros would spell zero.
        rw [hdrop, Nat.ofDigitChars_nil, Nat.mul_zero] at hspell
        omega
    | cons d ds =>
        rw [hdrop, hhead, List.cons_append] at hsplit
        obtain ⟨rfl, -⟩ := List.cons.inj hsplit
        exact ⟨c, ds, rfl, hc⟩
  · convert hvalue using 1
    have hn : (n : ℚ) = 10 ^ k * Nat.ofDigitChars 10 (dropZeros (digitsOf n)) 0 := by
      exact_mod_cast hspell.symm
    rw [Digits.value, hn, mul_comm ((10 : ℚ) ^ k), mul_assoc, ← zpow_natCast,
      ← zpow_add₀ (by norm_num)]
    congr 2
    change ((digitsOf n).length : Int) - places - (dropZeros (digitsOf n)).length = _
    omega

end PhotoCatalog.Number
