import PhotoCatalog.Proofs.Number.Nearest

/-!
The fewest digits that read back.  The search for them ends with a decimal number of the rounding
interval: a grid of seventeen significant digits is finer than the interval, so that its point next
to the double lies in it.
-/

namespace PhotoCatalog.Number

variable {r : Ratio} {significand : Nat} {exponent : Int}

/-- Searching downwards ends at a power of ten that is not above the number. -/
theorem pointBelow_spec (hden : 0 < r.den) (guess : Int) (steps : Nat)
    (hlast : (10 : ℚ) ^ (guess - steps - 1) ≤ r.value) :
    (10 : ℚ) ^ (pointBelow r guess steps - 1) ≤ r.value := by
  induction steps generalizing guess with
  | zero => simpa [pointBelow] using hlast
  | succ steps ih =>
      rw [pointBelow]
      split
      · rename_i hfound
        have hone := (Ratio.mul_den_le_iff (Ratio.scale_den_pos hden (1 - guess)) 1).mp
          (by rwa [one_mul])
        rw [Ratio.scale_value, Nat.cast_one] at hone
        calc (10 : ℚ) ^ (guess - 1) = (10 : ℚ) ^ (guess - 1) * 1 := (mul_one _).symm
          _ ≤ (10 : ℚ) ^ (guess - 1) * (r.value * (10 : ℚ) ^ (1 - guess)) := by gcongr
          _ = r.value := by
              rw [mul_left_comm, ← zpow_add₀ (by norm_num)]
              simp
      · apply ih
        convert hlast using 2
        push_cast
        ring

theorem ten_pow_le_two_pow : ∀ bits < 1100, 10 ^ (bits * 30103 / 100000) ≤ 2 ^ bits * 10 ^ 7 := by
  decide +kernel

theorem two_pow_le_ten_pow : ∀ bits < 1100, 2 ^ bits ≤ 10 ^ (bits * 30102 / 100000) * 10 ^ 7 := by
  decide +kernel

/-- The decimal point found for a number in the range of the doubles is not too high. -/
theorem pointOf_spec (hnum : 0 < r.num) (hden : 0 < r.den)
    (hleast : (2 : ℚ) ^ (-1074 : Int) ≤ r.value)
    (hgreatest : r.value < (2 : ℚ) ^ (1024 : Int)) : (10 : ℚ) ^ (pointOf r - 1) ≤ r.value := by
  obtain ⟨hlow, hhigh⟩ := Ratio.value_near hnum hden
  rw [pointOf]
  generalize hbits : (Nat.log2 r.num : Int) + 1 - Nat.log2 r.den = bits
  rw [show (Nat.log2 r.num : Int) - Nat.log2 r.den - 1 = bits - 2 by omega] at hlow
  rw [show (Nat.log2 r.num : Int) - Nat.log2 r.den + 1 = bits by omega] at hhigh
  have hfew : -1074 < bits :=
    (zpow_lt_zpow_iff_right₀ one_lt_two).mp (hleast.trans_lt hhigh)
  have hmany : bits - 2 < 1024 :=
    (zpow_lt_zpow_iff_right₀ one_lt_two).mp (hlow.trans_lt hgreatest)
  -- The eight steps down from the guess are more than its error.
  apply pointBelow_spec hden
  refine le_trans ?_ hlow
  rw [zpow_sub₀ two_ne_zero]
  split
  · rename_i hnonneg
    obtain ⟨n, rfl⟩ := Int.eq_ofNat_of_zero_le hnonneg
    have htable : (10 : ℚ) ^ (n * 30103 / 100000) ≤ 2 ^ n * 10 ^ 7 := by
      exact_mod_cast ten_pow_le_two_pow n (by omega)
    rw [show (n : Int) * 30103 / 100000 + 1 - (8 : Nat) - 1 =
      ((n * 30103 / 100000 : Nat) : Int) - (8 : Nat) by omega, zpow_sub₀ (by norm_num),
      zpow_natCast, zpow_natCast, zpow_natCast, div_le_iff₀ (by norm_num)]
    have hpower : (0 : ℚ) < 2 ^ n := by positivity
    norm_num at htable ⊢
    linarith
  · rename_i hnegative
    obtain ⟨n, hn⟩ := Int.eq_ofNat_of_zero_le (show 0 ≤ -bits by omega)
    obtain rfl : bits = -(n : Int) := by omega
    have htable : (2 : ℚ) ^ n ≤ 10 ^ (n * 30102 / 100000) * 10 ^ 7 := by
      exact_mod_cast two_pow_le_ten_pow n (by omega)
    rw [show -(- -(n : Int) * 30102 / 100000) + 1 - (8 : Nat) - 1 =
      -((n * 30102 / 100000 + 8 : Nat) : Int) by omega, zpow_neg, zpow_natCast, zpow_neg,
      zpow_natCast, div_eq_mul_inv, ← mul_inv, inv_le_inv₀ (by positivity) (by positivity), pow_add]
    have hpower : (0 : ℚ) < 10 ^ (n * 30102 / 100000) := by positivity
    norm_num at htable ⊢
    linarith

/-- The nearest point of a decimal grid is at most half a step away. -/
theorem nearest_grid (hden : 0 < r.den) (places : Int) :
    2 * |roundDiv (r.scale places).num (r.scale places).den * (10 : ℚ) ^ (-places) - r.value| ≤
      (10 : ℚ) ^ (-places) := by
  have hscaled := Ratio.scale_value r places
  have hscaledDen := Ratio.scale_den_pos hden places
  generalize r.scale places = scaled at hscaled hscaledDen ⊢
  obtain ⟨hbelow, habove⟩ := @roundDiv_near scaled.num _ hscaledDen
  have hscaledDen' : (0 : ℚ) < scaled.den := by exact_mod_cast hscaledDen
  have hnum : (scaled.num : ℚ) = r.value * (10 : ℚ) ^ places * scaled.den := by
    rw [← hscaled, Ratio.value, div_mul_cancel₀ _ hscaledDen'.ne']
  generalize roundDiv scaled.num scaled.den = n at hbelow habove ⊢
  have hstep : (0 : ℚ) < (10 : ℚ) ^ (-places) := by positivity
  have hvalue : r.value = r.value * (10 : ℚ) ^ places * (10 : ℚ) ^ (-places) := by
    rw [mul_assoc, ← zpow_add₀ (by norm_num), add_neg_cancel, zpow_zero, mul_one]
  generalize r.value * (10 : ℚ) ^ places = units at hnum hvalue
  have hbelow' : 2 * n - 1 ≤ 2 * units := by
    have h : (2 * n * scaled.den : ℚ) ≤ 2 * scaled.num + scaled.den := by exact_mod_cast hbelow
    rw [hnum] at h
    exact le_of_mul_le_mul_right (by linarith) hscaledDen'
  have habove' : 2 * units ≤ 2 * n + 1 := by
    have h : (2 * scaled.num : ℚ) ≤ (2 * n + 1) * scaled.den := by exact_mod_cast habove
    rw [hnum] at h
    exact le_of_mul_le_mul_right (by linarith) hscaledDen'
  rw [hvalue, ← sub_mul, abs_mul, abs_of_pos hstep, ← mul_assoc]
  have hhalf : 2 * |n - units| ≤ 1 := by
    have h : |n - units| ≤ 1 / 2 := abs_le.mpr ⟨by linarith, by linarith⟩
    linarith
  exact mul_le_of_le_one_left hstep.le hhalf

/-- A number within half a step of a double rounds to it, when the step has seventeen digits. -/
theorem Representable.roundsTo_of_near (hrep : Representable significand exponent) {q step : ℚ}
    (hstep : 10 ^ 16 * step ≤ significand * (2 : ℚ) ^ exponent)
    (hnear : 2 * |q - significand * (2 : ℚ) ^ exponent| ≤ step) :
    RoundsTo significand exponent q := by
  have hquarter : (0 : ℚ) < (2 : ℚ) ^ (exponent - 2) := by positivity
  rw [power_place] at hstep hnear
  generalize hplaces : (2 : ℚ) ^ (exponent - 2) = quarter at hquarter hstep hnear
  have hshort : (significand : ℚ) < 2 ^ 53 := by exact_mod_cast hrep.short
  have hbound : |q - significand * (4 * quarter)| ≤ significand * quarter * 2 / 10 ^ 16 := by
    linarith
  obtain ⟨hbelow, habove⟩ := abs_le.mp hbound
  have hsize : significand * quarter < 2 ^ 53 * quarter := by gcongr
  have hlow : lowQuarters significand exponent * quarter < q := by
    rw [lowQuarters]
    split
    · rename_i hpower
      obtain ⟨rfl, -⟩ := hpower
      push_cast at hbelow ⊢
      linarith
    · have hpositive := hrep.positive
      rw [Nat.cast_sub (by omega)]
      push_cast
      linarith
  have hhigh : q < (4 * significand + 2 : Nat) * quarter := by
    push_cast
    linarith
  rw [← hplaces] at hlow hhigh
  exact ⟨hlow.le, hhigh.le, Or.inr ⟨hlow, hhigh⟩⟩

theorem holds_of_gridPoint {interval : RoundingInterval} {places : Int} {n : Nat}
    (hpoint : gridPoint? r interval places = some n) : interval.holds n places = true := by
  have hfirst : ∀ nearest other : Nat, (if interval.holds nearest places then some nearest
      else if interval.holds other places then some other else none) = some n →
      interval.holds n places = true := by
    intro nearest other hchosen
    split at hchosen
    · rename_i hholds
      obtain rfl := Option.some.inj hchosen
      exact hholds
    · split at hchosen
      · rename_i _ hholds
        obtain rfl := Option.some.inj hchosen
        exact hholds
      · contradiction
  exact hfirst _ _ hpoint

/-- The search ends in the rounding interval, when the last grid has a point there. -/
theorem shortestFrom_spec {point : Int}
    (hlast : RoundsTo significand exponent
      (roundDiv (r.scale (17 - point)).num (r.scale (17 - point)).den *
        (10 : ℚ) ^ (-(17 - point)))) (count fuel : Nat) :
    RoundsTo significand exponent
      ((shortestFrom r (.of significand exponent) point count fuel).1 *
        (10 : ℚ) ^ (-(shortestFrom r (.of significand exponent) point count fuel).2)) := by
  -- A finer grid is tried only where this one has no point in the interval; the last one has.
  induction fuel generalizing count with
  | zero => exact hlast
  | succ fuel ih =>
      rw [shortestFrom]
      split
      · rename_i n hpoint
        exact holds_iff.mp (holds_of_gridPoint hpoint)
      · exact ih (count + 1)

theorem Representable.value_bounds (hrep : Representable significand exponent) :
    (2 : ℚ) ^ (-1074 : Int) ≤ significand * (2 : ℚ) ^ exponent ∧
      significand * (2 : ℚ) ^ exponent < (2 : ℚ) ^ (1024 : Int) := by
  have hpositive : (1 : ℚ) ≤ significand := by exact_mod_cast hrep.positive
  have hshort : (significand : ℚ) < 2 ^ 53 := by exact_mod_cast hrep.short
  constructor
  · calc (2 : ℚ) ^ (-1074 : Int) ≤ (2 : ℚ) ^ exponent :=
          zpow_le_zpow_right₀ one_le_two hrep.least
      _ ≤ significand * (2 : ℚ) ^ exponent := le_mul_of_one_le_left (by positivity) hpositive
  · calc significand * (2 : ℚ) ^ exponent < 2 ^ 53 * (2 : ℚ) ^ exponent := by gcongr
      _ = (2 : ℚ) ^ (53 + exponent) := by
          rw [zpow_add₀ two_ne_zero]
          norm_num
      _ ≤ (2 : ℚ) ^ (1024 : Int) := by
          apply zpow_le_zpow_right₀ one_le_two
          have hgreatest := hrep.greatest
          omega

/-- The digits found for a double read back. -/
theorem Representable.roundsTo_shortest (hrep : Representable significand exponent) {n : Nat}
    {places : Int} (hfound : shortestFrom (.ofBinary significand exponent)
      (.of significand exponent) (pointOf (.ofBinary significand exponent)) 1 17 = (n, places)) :
    RoundsTo significand exponent (n * (10 : ℚ) ^ (-places)) := by
  obtain ⟨hleast, hgreatest⟩ := hrep.value_bounds
  have hden := Ratio.ofBinary_den_pos significand exponent
  have hpoint := pointOf_spec (Ratio.ofBinary_num_pos hrep.positive exponent) hden
    (by rwa [Ratio.ofBinary_value]) (by rwa [Ratio.ofBinary_value])
  have hnear := nearest_grid hden (17 - pointOf (.ofBinary significand exponent))
  rw [Ratio.ofBinary_value] at hpoint hnear
  rw [show n = (n, places).1 from rfl, show places = (n, places).2 from rfl, ← hfound]
  apply shortestFrom_spec
  refine hrep.roundsTo_of_near ?_ hnear
  calc (10 : ℚ) ^ 16 * (10 : ℚ) ^ (-(17 - pointOf (.ofBinary significand exponent)))
      = (10 : ℚ) ^ (pointOf (.ofBinary significand exponent) - 1) := by
        rw [← zpow_natCast, ← zpow_add₀ (by norm_num)]
        congr 1
        push_cast
        ring
    _ ≤ significand * (2 : ℚ) ^ exponent := hpoint

end PhotoCatalog.Number
