import PhotoCatalog.Proofs.Number.Ratio

/-!
The numbers that round to a double.  Around every positive double lies the interval of the numbers
that are nearer to it than to its neighbours; each number of the interval, rounded to a double,
gives the bits of that double.
-/

namespace PhotoCatalog.Number

/-- The significands and exponents of the positive doubles. -/
structure Representable (significand : Nat) (exponent : Int) : Prop where
  positive : 0 < significand
  short : significand < 2 ^ 53
  least : -1074 ≤ exponent
  greatest : exponent ≤ 971
  full : 2 ^ 52 ≤ significand ∨ exponent = -1074

/-- The bits of a double that is not negative. -/
def sizeBits (significand : Nat) (exponent : Int) : Nat :=
  (exponent + 1074).toNat * 2 ^ 52 + significand

/-- The low end of the rounding interval, in quarters of the last place. -/
def lowQuarters (significand : Nat) (exponent : Int) : Nat :=
  if significand = 2 ^ 52 ∧ -1074 < exponent then 4 * significand - 1 else 4 * significand - 2

/-- The numbers that round to `significand * 2 ^ exponent`.  The ends are among them when the
significand is even. -/
structure RoundsTo (significand : Nat) (exponent : Int) (q : ℚ) : Prop where
  low : lowQuarters significand exponent * (2 : ℚ) ^ (exponent - 2) ≤ q
  high : q ≤ (4 * significand + 2 : Nat) * (2 : ℚ) ^ (exponent - 2)
  ends : significand % 2 = 0 ∨
    lowQuarters significand exponent * (2 : ℚ) ^ (exponent - 2) < q ∧
      q < (4 * significand + 2 : Nat) * (2 : ℚ) ^ (exponent - 2)

variable {r : Ratio} {significand : Nat} {exponent : Int}

theorem le_lowQuarters : 4 * significand - 2 ≤ lowQuarters significand exponent := by
  rw [lowQuarters]
  split <;> omega

theorem Ratio.mul_den_le_iff (hden : 0 < r.den) (n : Nat) :
    n * r.den ≤ r.num ↔ (n : ℚ) ≤ r.value := by
  have hden' : (0 : ℚ) < r.den := by exact_mod_cast hden
  rw [value, le_div_iff₀ hden']
  exact_mod_cast Iff.rfl

theorem Ratio.le_mul_den_iff (hden : 0 < r.den) (n : Nat) :
    r.num ≤ n * r.den ↔ r.value ≤ (n : ℚ) := by
  have hden' : (0 : ℚ) < r.den := by exact_mod_cast hden
  rw [value, div_le_iff₀ hden']
  exact_mod_cast Iff.rfl

/-- The interval that is computed with whole numbers is the rounding interval. -/
theorem holds_iff {n : Nat} {places : Int} :
    (RoundingInterval.of significand exponent).holds n places = true ↔
      RoundsTo significand exponent (n * (10 : ℚ) ^ (-places)) := by
  have hunit := Ratio.ofBinary_value 1 (exponent - 2)
  have hunitDen := Ratio.ofBinary_den_pos 1 (exponent - 2)
  rw [RoundingInterval.holds, RoundingInterval.of]
  generalize Ratio.ofBinary 1 (exponent - 2) = unit at hunit hunitDen ⊢
  have hvalue := Ratio.scale_value ⟨n * unit.den, 1⟩ (-places)
  have hden := Ratio.scale_den_pos (r := ⟨n * unit.den, 1⟩) Nat.one_pos (-places)
  generalize (⟨n * unit.den, 1⟩ : Ratio).scale (-places) = scaled at hvalue hden ⊢
  have hunitDen' : (0 : ℚ) < unit.den := by exact_mod_cast hunitDen
  rw [Nat.cast_one, one_mul, Ratio.value] at hunit
  -- Both ends are compared in units of the same denominator.
  have hscaled : scaled.value = n * (10 : ℚ) ^ (-places) * unit.den := by
    rw [hvalue, Ratio.value, Nat.cast_one, div_one, Nat.cast_mul]
    ring
  have hend : ∀ k : Nat, ((k * unit.num : Nat) : ℚ) = k * (2 : ℚ) ^ (exponent - 2) * unit.den := by
    intro k
    rw [← hunit, Nat.cast_mul]
    field_simp
  have hlow : ∀ k : Nat, k * unit.num * scaled.den ≤ scaled.num ↔
      k * (2 : ℚ) ^ (exponent - 2) ≤ n * (10 : ℚ) ^ (-places) := by
    intro k
    rw [Ratio.mul_den_le_iff hden, hscaled, hend, mul_le_mul_iff_left₀ hunitDen']
  have hhigh : ∀ k : Nat, scaled.num ≤ k * unit.num * scaled.den ↔
      n * (10 : ℚ) ^ (-places) ≤ k * (2 : ℚ) ^ (exponent - 2) := by
    intro k
    rw [Ratio.le_mul_den_iff hden, hscaled, hend, mul_le_mul_iff_left₀ hunitDen']
  have hfactor : (if significand = 2 ^ 52 ∧ -1074 < exponent then 4 * significand - 1
      else 4 * significand - 2) = lowQuarters significand exponent := rfl
  simp only [hfactor]
  split
  · rename_i heven
    rw [Bool.and_eq_true, decide_eq_true_iff, decide_eq_true_iff, hlow, hhigh]
    constructor
    · rintro ⟨hlow, hhigh⟩
      exact ⟨hlow, hhigh, Or.inl (of_decide_eq_true heven)⟩
    · rintro ⟨hlow, hhigh, _⟩
      exact ⟨hlow, hhigh⟩
  · rename_i hodd
    rw [Bool.and_eq_true, decide_eq_true_iff, decide_eq_true_iff, ← not_le, ← not_le, hlow, hhigh,
      not_le, not_le]
    constructor
    · rintro ⟨hlow, hhigh⟩
      exact ⟨hlow.le, hhigh.le, Or.inr ⟨hlow, hhigh⟩⟩
    · rintro ⟨_, _, heven | hstrict⟩
      · exact absurd (decide_eq_true heven) hodd
      · exact hstrict

/-- A ratio in units of a power of two, rounded to a whole number. -/
theorem roundDiv_unit {n : Nat} (hden : 0 < r.den)
    (hlow : (2 * n - 1) * (2 : ℚ) ^ exponent ≤ 2 * r.value)
    (hhigh : 2 * r.value ≤ (2 * n + 1) * (2 : ℚ) ^ exponent)
    (htie : n % 2 = 0 ∨ (2 * n - 1) * (2 : ℚ) ^ exponent < 2 * r.value ∧
      2 * r.value < (2 * n + 1) * (2 : ℚ) ^ exponent) :
    roundDiv (r.num * (Ratio.ofBinary 1 exponent).den) (r.den * (Ratio.ofBinary 1 exponent).num) =
      n := by
  have hunit := Ratio.ofBinary_value 1 exponent
  have hunitNum := Ratio.ofBinary_num_pos Nat.one_pos exponent
  have hunitDen := Ratio.ofBinary_den_pos 1 exponent
  generalize Ratio.ofBinary 1 exponent = unit at hunit hunitNum hunitDen ⊢
  have hden' : (0 : ℚ) < r.den := by exact_mod_cast hden
  have hunitDen' : (0 : ℚ) < unit.den := by exact_mod_cast hunitDen
  rw [Nat.cast_one, one_mul, Ratio.value] at hunit
  rw [← hunit, Ratio.value] at hlow hhigh htie
  rw [mul_div_assoc', mul_div_assoc', div_le_div_iff₀ hunitDen' hden'] at hlow
  rw [mul_div_assoc', mul_div_assoc', div_le_div_iff₀ hden' hunitDen'] at hhigh
  rw [mul_div_assoc', mul_div_assoc', mul_div_assoc', div_lt_div_iff₀ hunitDen' hden',
    div_lt_div_iff₀ hden' hunitDen'] at htie
  apply roundDiv_eq (Nat.mul_pos hden hunitNum)
  · have h : (2 * n * (r.den * unit.num) : ℚ) ≤ 2 * (r.num * unit.den) + r.den * unit.num := by
      linarith
    exact_mod_cast h
  · have h : (2 * (r.num * unit.den) : ℚ) ≤ (2 * n + 1) * (r.den * unit.num) := by
      linarith
    exact_mod_cast h
  · rcases htie with heven | ⟨hstrictLow, hstrictHigh⟩
    · exact Or.inl heven
    · refine Or.inr ⟨?_, ?_⟩
      · have h : (2 * n * (r.den * unit.num) : ℚ) < 2 * (r.num * unit.den) + r.den * unit.num := by
          linarith
        exact_mod_cast h
      · have h : (2 * (r.num * unit.den) : ℚ) < (2 * n + 1) * (r.den * unit.num) := by
          linarith
        exact_mod_cast h

/-- A power of two in quarters of the last place. -/
theorem power_quarters (exponent : Int) (n : Nat) :
    (2 : ℚ) ^ (exponent - 2 + n) = 2 ^ n * (2 : ℚ) ^ (exponent - 2) := by
  rw [zpow_add₀ two_ne_zero, zpow_natCast, mul_comm]

theorem power_place (exponent : Int) : (2 : ℚ) ^ exponent = 4 * (2 : ℚ) ^ (exponent - 2) := by
  have hpower := power_quarters exponent 2
  norm_num at hpower
  exact hpower

/-- A number that rounds to a double lies below the next binade but one. -/
theorem Representable.binaryPoint_le (hrep : Representable significand exponent)
    (hnum : 0 < r.num) (hden : 0 < r.den) (hvalue : RoundsTo significand exponent r.value) :
    binaryPoint r ≤ exponent + 52 := by
  have hquarter : (0 : ℚ) < (2 : ℚ) ^ (exponent - 2) := by positivity
  have hbelow : (2 : ℚ) ^ binaryPoint r < (2 : ℚ) ^ (exponent - 2 + (55 : Nat)) := by
    calc (2 : ℚ) ^ binaryPoint r ≤ r.value := (binaryPoint_spec hnum hden).1
      _ ≤ (4 * significand + 2 : Nat) * (2 : ℚ) ^ (exponent - 2) := hvalue.high
      _ < 2 ^ 55 * (2 : ℚ) ^ (exponent - 2) := by
          have hshort := hrep.short
          have hless : 4 * significand + 2 < 2 ^ 55 := by omega
          gcongr
          exact_mod_cast hless
      _ = (2 : ℚ) ^ (exponent - 2 + (55 : Nat)) := (power_quarters exponent 55).symm
  have hless := (zpow_lt_zpow_iff_right₀ one_lt_two).mp hbelow
  omega

/-- In the binade of the double itself the significand is the rounded one. -/
theorem Representable.round_inside (hrep : Representable significand exponent) (hden : 0 < r.den)
    (hvalue : RoundsTo significand exponent r.value) :
    roundDiv (r.num * (Ratio.ofBinary 1 exponent).den) (r.den * (Ratio.ofBinary 1 exponent).num) =
      significand := by
  have hquarter : (0 : ℚ) < (2 : ℚ) ^ (exponent - 2) := by positivity
  have hplace := power_place exponent
  have hfirst : (4 * significand - 2 : ℚ) ≤ lowQuarters significand exponent := by
    have hpositive := hrep.positive
    have hle : 4 * significand ≤ lowQuarters significand exponent + 2 := by
      have := @le_lowQuarters significand exponent
      omega
    have hle' : (4 * significand : ℚ) ≤ lowQuarters significand exponent + 2 := by
      exact_mod_cast hle
    linarith
  have hlow := hvalue.low
  have hhigh := hvalue.high
  have hends := hvalue.ends
  have hfirst' := mul_le_mul_of_nonneg_right hfirst hquarter.le
  push_cast at hhigh hends
  apply roundDiv_unit hden
  · rw [hplace]
    linarith
  · rw [hplace]
    linarith
  · rcases hends with heven | ⟨hstrictLow, hstrictHigh⟩
    · exact Or.inl heven
    · refine Or.inr ⟨?_, ?_⟩
      · rw [hplace]
        linarith
      · rw [hplace]
        linarith

/-- Below the binade of the double, which then is a power of two, rounding goes up to the end of
the binade. -/
theorem Representable.round_below (hrep : Representable significand exponent) (hnum : 0 < r.num)
    (hden : 0 < r.den) (hvalue : RoundsTo significand exponent r.value)
    (hbelow : binaryPoint r < exponent + 52) (hleast : -1074 < exponent) :
    significand = 2 ^ 52 ∧ binaryPoint r = exponent + 51 ∧
      roundDiv (r.num * (Ratio.ofBinary 1 (exponent - 1)).den)
        (r.den * (Ratio.ofBinary 1 (exponent - 1)).num) = 2 ^ 53 := by
  obtain ⟨-, hpoint⟩ := binaryPoint_spec hnum hden
  have hquarter : (0 : ℚ) < (2 : ℚ) ^ (exponent - 2) := by positivity
  have hless : r.value < 2 ^ 54 * (2 : ℚ) ^ (exponent - 2) := by
    calc r.value < (2 : ℚ) ^ (binaryPoint r + 1) := hpoint
      _ ≤ (2 : ℚ) ^ (exponent - 2 + (54 : Nat)) := by
          apply zpow_le_zpow_right₀ one_le_two
          omega
      _ = 2 ^ 54 * (2 : ℚ) ^ (exponent - 2) := power_quarters exponent 54
  have hquarters : lowQuarters significand exponent < 2 ^ 54 := by
    have h := lt_of_mul_lt_mul_right (hvalue.low.trans_lt hless) hquarter.le
    exact_mod_cast h
  have hfull : 2 ^ 52 ≤ significand := by
    rcases hrep.full with hfull | hsmallest
    · exact hfull
    · omega
  obtain rfl : significand = 2 ^ 52 := by
    by_contra hne
    have hlow : lowQuarters significand exponent = 4 * significand - 2 := by
      rw [lowQuarters, if_neg fun h => hne h.1]
    omega
  have hlow : (2 ^ 54 - 1) * (2 : ℚ) ^ (exponent - 2) ≤ r.value := by
    have h := hvalue.low
    rw [lowQuarters, if_pos ⟨rfl, hleast⟩] at h
    norm_num at h ⊢
    exact h
  refine ⟨rfl, ?_, ?_⟩
  · have habove : (2 : ℚ) ^ (exponent - 2 + (53 : Nat)) < (2 : ℚ) ^ (binaryPoint r + 1) := by
      rw [power_quarters]
      linarith
    have h := (zpow_lt_zpow_iff_right₀ one_lt_two).mp habove
    omega
  · have hplace : (2 : ℚ) ^ (exponent - 1) = 2 * (2 : ℚ) ^ (exponent - 2) := by
      have hpower := power_quarters exponent 1
      rw [pow_one] at hpower
      rw [← hpower]
      congr 1
      push_cast
      ring
    apply roundDiv_unit hden
    · rw [hplace]
      push_cast
      linarith
    · rw [hplace]
      push_cast
      linarith
    · exact Or.inl rfl

/-- Every number of the rounding interval, rounded to a double, gives the double. -/
theorem Representable.toFloat_eq (hrep : Representable significand exponent) (hnum : 0 < r.num)
    (hden : 0 < r.den) (hvalue : RoundsTo significand exponent r.value) :
    r.toFloat = Float.ofBits (UInt64.ofNat (sizeBits significand exponent)) := by
  have hle := hrep.binaryPoint_le hnum hden hvalue
  have hshort := hrep.short
  have hleast := hrep.least
  have hgreatest := hrep.greatest
  have hroom : ¬ 2047 * 2 ^ 52 ≤ sizeBits significand exponent := by
    rw [sizeBits]
    omega
  have hbits : ∀ binade : Int, max (-1074) (binaryPoint r + 1 - (53 : Nat)) = binade →
      (binade + 1074).toNat * 2 ^ 52 + roundDiv (r.num * (Ratio.ofBinary 1 binade).den)
        (r.den * (Ratio.ofBinary 1 binade).num) = sizeBits significand exponent := by
    intro binade hbinade
    rcases Classical.em (exponent = binade) with rfl | hother
    · rw [hrep.round_inside hden hvalue, sizeBits]
    · obtain ⟨rfl, hpoint, hround⟩ := hrep.round_below hnum hden hvalue (by omega) (by omega)
      obtain rfl : binade = exponent - 1 := by omega
      rw [hround, sizeBits]
      omega
  rw [Ratio.toFloat, nearestBinary]
  simp only [hbits _ rfl, if_neg hroom]

end PhotoCatalog.Number
