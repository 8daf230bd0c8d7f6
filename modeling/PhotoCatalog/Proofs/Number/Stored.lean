import PhotoCatalog.Number.Stored
import PhotoCatalog.Proofs.Number.Numeral
import PhotoCatalog.Proofs.Number.Wide

/-!
The digits that the catalog writes of a real.  Every positive double is brought between one and ten,
however far away it lies, and its digits are taken off without a rounding that could carry over; so
they are proper digits, and the first of them is not zero.
-/

namespace PhotoCatalog.Number

open PhotoCatalog.Text

variable {x r s bound step : Ratio}

theorem Ratio.atMost_iff (hr : 0 < r.den) (hs : 0 < s.den) :
    r.atMost s = true ↔ r.value ≤ s.value := by
  have hr' : (0 : ℚ) < r.den := by exact_mod_cast hr
  have hs' : (0 : ℚ) < s.den := by exact_mod_cast hs
  rw [Ratio.atMost, decide_eq_true_iff, Ratio.value, Ratio.value, div_le_div_iff₀ hr' hs']
  exact_mod_cast Iff.rfl

/-- A scale that has been raised reaches up to the number, but for the step that does not fit any
more, or it has been raised as often as it may be. -/
theorem raiseScale_spec (hx : 0 < x.den) (hstep : 0 < step.den) (hbig : 2 ≤ step.value)
    (power : Int) (fuel : Nat) {scale : Scaled} (hscale : 0 < scale.value.den)
    (hone : 1 ≤ scale.value.value) :
    let raised := (raiseScale x step power fuel scale).value
    0 < raised.den ∧ 1 ≤ raised.value ∧
      (raised.value = scale.value.value ∨ raised.value ≤ x.value) ∧
      (x.value ≤ 1001 / 1000 * step.value * raised.value ∨
        (999 / 1000 * step.value) ^ fuel * scale.value.value ≤ raised.value) := by
  induction fuel generalizing scale with
  | zero => exact ⟨hscale, hone, Or.inl rfl, Or.inr (by simp [raiseScale])⟩
  | succ fuel ih =>
      have hrounds := Ratio.times_rounds hstep hscale
      have hproduct : 2 ≤ step.value * scale.value.value := by nlinarith
      obtain ⟨hlow, hhigh⟩ := hrounds.relative (least_le_one.trans (by linarith))
      simp only [raiseScale]
      by_cases hfits : (step.times scale.value).atMost x = true
      · rw [if_pos hfits]
        rw [Ratio.atMost_iff hrounds.den_pos hx] at hfits
        obtain ⟨hden, hone', hside, hfuel⟩ :=
          @ih ⟨step.times scale.value, scale.power + power⟩ hrounds.den_pos
            (by dsimp only; linarith)
        refine ⟨hden, hone', ?_, ?_⟩
        · rcases hside with hsame | hless
          · exact Or.inr (hsame.trans_le hfits)
          · exact Or.inr hless
        · refine hfuel.imp_right fun hraised => le_trans ?_ hraised
          rw [pow_succ, mul_assoc, mul_assoc]
          gcongr
      · rw [if_neg hfits]
        rw [Ratio.atMost_iff hrounds.den_pos hx, not_le] at hfits
        exact ⟨hscale, hone, Or.inl rfl, Or.inl (by linarith)⟩

/-- A number that has been raised reaches the bound, but not far beyond it, or it has been raised as
often as it may be. -/
theorem raiseValue_spec (hbound : 0 < bound.den) (hstep : 0 < step.den) (hbig : 2 ≤ step.value)
    (power : Int) (fuel : Nat) {x : Scaled} (hx : 0 < x.value.den)
    (hleast : (2 : ℚ) ^ (-1100 : Int) ≤ x.value.value) {most : ℚ} (hmost : x.value.value ≤ most)
    (hreach : 1001 / 1000 * (step.value * bound.value) ≤ most) :
    let raised := (raiseValue bound step power fuel x).value
    0 < raised.den ∧ x.value.value ≤ raised.value ∧ raised.value ≤ most ∧
      (bound.value ≤ raised.value ∨
        (999 / 1000 * step.value) ^ fuel * x.value.value ≤ raised.value) := by
  induction fuel generalizing x with
  | zero => exact ⟨hx, le_refl _, hmost, Or.inr (by simp [raiseValue])⟩
  | succ fuel ih =>
      have hpos : 0 < x.value.value := lt_of_lt_of_le (by positivity) hleast
      have hrounds := Ratio.times_rounds hx hstep
      have hproduct : x.value.value ≤ x.value.value * step.value := by nlinarith
      obtain ⟨hlow, hhigh⟩ := hrounds.relative (hleast.trans hproduct)
      simp only [raiseValue]
      by_cases hreached : bound.atMost x.value = true
      · rw [if_pos hreached]
        rw [Ratio.atMost_iff hbound hx] at hreached
        exact ⟨hx, le_refl _, hmost, Or.inl hreached⟩
      · rw [if_neg hreached]
        rw [Ratio.atMost_iff hbound hx, not_le] at hreached
        have hraise : x.value.value ≤ (x.value.times step).value := by nlinarith
        have hbelow : (x.value.times step).value ≤ most := by
          refine hhigh.trans (le_trans ?_ hreach)
          nlinarith
        obtain ⟨hden, hless, hmore, hside⟩ := @ih ⟨x.value.times step, x.power - power⟩
          hrounds.den_pos (hleast.trans hraise) hbelow
        refine ⟨hden, hraise.trans hless, hmore, hside.imp_right fun hraised => ?_⟩
        refine le_trans ?_ hraised
        rw [pow_succ, mul_assoc]
        have hfactor : 0 ≤ (999 / 1000 * step.value) ^ fuel := by positivity
        nlinarith

/-- Bounds of a ratio, from whole numbers. -/
theorem Ratio.value_le {a b : Nat} (hden : 0 < r.den) (hb : 0 < b) (hle : r.num * b ≤ a * r.den) :
    r.value ≤ a / b := by
  have hden' : (0 : ℚ) < r.den := by exact_mod_cast hden
  have hb' : (0 : ℚ) < b := by exact_mod_cast hb
  rw [Ratio.value, div_le_div_iff₀ hden' hb']
  exact_mod_cast hle

theorem Ratio.le_value {a b : Nat} (hden : 0 < r.den) (hb : 0 < b) (hle : a * r.den ≤ r.num * b) :
    (a : ℚ) / b ≤ r.value := by
  have hden' : (0 : ℚ) < r.den := by exact_mod_cast hden
  have hb' : (0 : ℚ) < b := by exact_mod_cast hb
  rw [Ratio.value, div_le_div_iff₀ hb' hden']
  exact_mod_cast hle

theorem Ratio.ofNat_value (n : Nat) : (Ratio.ofNat n).value = n := by
  simp [Ratio.ofNat, Ratio.value]

theorem one_value : one.value = 1 := by
  rw [one, Ratio.ofNat_value, Nat.cast_one]

theorem ten_value : ten.value = 10 := by
  rw [ten, Ratio.ofNat_value, Nat.cast_ofNat]

/-- The scale that a number is divided by. -/
def scaleOf (x : Ratio) : Scaled :=
  raiseScale x ten 1 10
    (raiseScale x (.ofFloat 1e10) 10 10 (raiseScale x (.ofFloat 1e100) 100 4 ⟨one, 0⟩))

/-- A ratio that is a whole number. -/
theorem Ratio.value_eq_natCast (hden : 0 < r.den) {n : Nat} (hnum : r.num = n * r.den) :
    r.value = n :=
  le_antisymm ((Ratio.le_mul_den_iff hden n).mp hnum.le) ((Ratio.mul_den_le_iff hden n).mp hnum.ge)

theorem ofFloat_1e8_value :
    0 < (Ratio.ofFloat 1e8).den ∧ (Ratio.ofFloat 1e8).value = 10 ^ 8 := by
  have hden : 0 < (Ratio.ofFloat 1e8).den := by decide +kernel
  exact ⟨hden, (Ratio.value_eq_natCast hden (by decide +kernel)).trans (Nat.cast_pow 10 8)⟩

theorem ofFloat_1e10_value :
    0 < (Ratio.ofFloat 1e10).den ∧ (Ratio.ofFloat 1e10).value = 10 ^ 10 := by
  have hden : 0 < (Ratio.ofFloat 1e10).den := by decide +kernel
  exact ⟨hden, (Ratio.value_eq_natCast hden (by decide +kernel)).trans (Nat.cast_pow 10 10)⟩

/-- The double that is nearest to the hundredth power of ten is not that power. -/
theorem ofFloat_1e100_bounds : 0 < (Ratio.ofFloat 1e100).den ∧
    (99 * 10 ^ 98 : ℚ) ≤ (Ratio.ofFloat 1e100).value ∧
      (Ratio.ofFloat 1e100).value ≤ 101 * 10 ^ 98 := by
  have hden : 0 < (Ratio.ofFloat 1e100).den := by decide +kernel
  refine ⟨hden, ?_, ?_⟩
  · exact_mod_cast (Ratio.mul_den_le_iff hden (99 * 10 ^ 98)).mp (by decide +kernel)
  · exact_mod_cast (Ratio.le_mul_den_iff hden (101 * 10 ^ 98)).mp (by decide +kernel)

/-- Raised by four great steps a scale would lie beyond all doubles, so it has been raised until one
more such step does not fit. -/
theorem le_of_great_steps {q scale : ℚ} (hmost : q < (2 : ℚ) ^ (1024 : Int)) (hone : 1 ≤ scale)
    (hside : scale = 1 ∨ scale ≤ q)
    (hreach : q ≤ 1001 / 1000 * (Ratio.ofFloat 1e100).value * scale ∨
      (999 / 1000 * (Ratio.ofFloat 1e100).value) ^ 4 * 1 ≤ scale) :
    q ≤ 102 * 10 ^ 98 * scale := by
  obtain ⟨-, hlow, hhigh⟩ := ofFloat_1e100_bounds
  rcases hreach with hreach | hreach
  · calc q ≤ 1001 / 1000 * (Ratio.ofFloat 1e100).value * scale := hreach
      _ ≤ 1001 / 1000 * (101 * 10 ^ 98) * scale := by
          apply mul_le_mul_of_nonneg_right _ (zero_le_one.trans hone)
          exact mul_le_mul_of_nonneg_left hhigh (by norm_num)
      _ ≤ 102 * 10 ^ 98 * scale := by linarith
  · exfalso
    have hroot : (2 : ℚ) ^ 256 < 98 * 10 ^ 98 := by norm_num
    have hfar : (2 : ℚ) ^ (1024 : Int) = (2 ^ 256) ^ 4 := by
      rw [← pow_mul]
      exact zpow_natCast 2 1024
    have hraised : ((2 : ℚ) ^ 256) ^ 4 ≤ scale := by
      rw [mul_one] at hreach
      refine le_trans (pow_le_pow_left₀ (by positivity) ?_ 4) hreach
      linarith
    rcases hside with rfl | hside
    · exact absurd hraised (not_le.mpr (one_lt_pow₀ (by norm_num) (by decide)))
    · exact absurd (hraised.trans hside) (not_le.mpr (hfar ▸ hmost))

/-- The scale of a double: at least one, at most the double unless it is one, and not far below the
double. -/
theorem scaleOf_spec (hx : 0 < x.den) (hmost : x.value < (2 : ℚ) ^ (1024 : Int)) :
    0 < (scaleOf x).value.den ∧ 1 ≤ (scaleOf x).value.value ∧
      ((scaleOf x).value.value = 1 ∨ (scaleOf x).value.value ≤ x.value) ∧
      x.value ≤ 1002 / 100 * (scaleOf x).value.value := by
  obtain ⟨hgreatDen, hgreatLow, -⟩ := ofFloat_1e100_bounds
  obtain ⟨hmiddleDen, hmiddle⟩ := ofFloat_1e10_value
  rw [scaleOf]
  obtain ⟨hden, hone, hside, hreach⟩ := raiseScale_spec hx hgreatDen (by linarith) 100 4
    (show 0 < (Scaled.mk one 0).value.den by decide) one_value.ge
  generalize raiseScale x (.ofFloat 1e100) 100 4 ⟨one, 0⟩ = great at hden hone hside hreach ⊢
  obtain ⟨hden', hone', hside', hreach'⟩ :=
    raiseScale_spec hx hmiddleDen (by rw [hmiddle]; norm_num) 10 10 hden hone
  generalize raiseScale x (.ofFloat 1e10) 10 10 great = middle at hden' hone' hside' hreach' ⊢
  obtain ⟨hden'', hone'', hside'', hreach''⟩ :=
    raiseScale_spec hx (show 0 < ten.den by decide) (by rw [ten_value]; norm_num) 1 10 hden' hone'
  generalize raiseScale x ten 1 10 middle = small at hden'' hone'' hside'' hreach'' ⊢
  simp only [one_value] at hside hreach
  have hfirst := le_of_great_steps hmost hone hside hreach
  rw [hmiddle] at hreach'
  rw [ten_value] at hreach''
  -- Ten steps of the next size would lead beyond the great step that did not fit.
  have hsecond : x.value ≤ 1001 / 1000 * 10 ^ 10 * middle.value.value := by
    rcases hreach' with hreach' | hreach'
    · exact hreach'
    · norm_num at hreach'
      linarith
  refine ⟨hden'', hone'', ?_, ?_⟩
  · rcases hside'' with hsame | hside''
    · rw [hsame]
      rcases hside' with hsame' | hside'
      · rwa [hsame']
      · exact Or.inr hside'
    · exact Or.inr hside''
  · rcases hreach'' with hreach'' | hreach''
    · linarith
    · norm_num at hreach''
      linarith

/-- A double divided by its scale is not far above one. -/
theorem over_scaleOf_spec (hx : 0 < x.den) (hleast : (2 : ℚ) ^ (-1074 : Int) ≤ x.value)
    (hmost : x.value < (2 : ℚ) ^ (1024 : Int)) :
    0 < (x.over (scaleOf x).value).den ∧
      (2 : ℚ) ^ (-1100 : Int) ≤ (x.over (scaleOf x).value).value ∧
      (x.over (scaleOf x).value).value ≤ 1004 / 100 := by
  obtain ⟨hden, hone, hside, hreach⟩ := scaleOf_spec hx hmost
  generalize (scaleOf x).value = scale at *
  have hpos : 0 < scale.value := lt_of_lt_of_le one_pos hone
  have hrounds := Ratio.over_rounds hx (Ratio.num_pos_of_value hpos)
  have hquotient : (2 : ℚ) ^ (-1074 : Int) ≤ x.value / scale.value := by
    rcases hside with hsame | hless
    · rwa [hsame, div_one]
    · have hpower : (2 : ℚ) ^ (-1074 : Int) ≤ 1 :=
        zpow_le_one_of_nonpos₀ one_le_two (by decide)
      exact hpower.trans ((one_le_div hpos).mpr hless)
  have hquotient' : x.value / scale.value ≤ 1002 / 100 := (div_le_iff₀ hpos).mpr hreach
  obtain ⟨hlow, hhigh⟩ := hrounds.relative
    (le_trans (zpow_le_zpow_right₀ one_le_two (by decide)) hquotient)
  have hsplit : (2 : ℚ) ^ (-1100 : Int) = (2 : ℚ) ^ (-1074 : Int) * (2 : ℚ) ^ (-26 : Int) := by
    rw [← zpow_add₀ two_ne_zero]
    rfl
  have hpart : (2 : ℚ) ^ (-26 : Int) ≤ 999 / 1000 := by norm_num
  refine ⟨hrounds.den_pos, ?_, by linarith⟩
  calc (2 : ℚ) ^ (-1100 : Int) = (2 : ℚ) ^ (-1074 : Int) * (2 : ℚ) ^ (-26 : Int) := hsplit
    _ ≤ x.value / scale.value * (999 / 1000) :=
        mul_le_mul hquotient hpart (zpow_pos two_pos _).le
          ((zpow_pos two_pos _).le.trans hquotient)
    _ = 999 / 1000 * (x.value / scale.value) := mul_comm _ _
    _ ≤ (x.over scale).value := hlow

/-- A number that is not too small reaches a hundred millionth by its first steps. -/
theorem raiseSmall_spec {x : Scaled} (hx : 0 < x.value.den)
    (hleast : (2 : ℚ) ^ (-1100 : Int) ≤ x.value.value) (hmost : x.value.value ≤ 1004 / 100) :
    let raised := (raiseValue (.ofFloat 1e-8) (.ofFloat 1e8) 8 50 x).value
    0 < raised.den ∧ x.value.value ≤ raised.value ∧ 99 / 10 ^ 10 ≤ raised.value ∧
      raised.value ≤ 1004 / 100 := by
  have hboundDen : 0 < (Ratio.ofFloat 1e-8).den := by decide +kernel
  have hboundLow : ((99 : Nat) : ℚ) / (10 ^ 10 : Nat) ≤ (Ratio.ofFloat 1e-8).value :=
    Ratio.le_value hboundDen (by decide) (by decide +kernel)
  have hboundHigh : (Ratio.ofFloat 1e-8).value ≤ ((101 : Nat) : ℚ) / (10 ^ 10 : Nat) :=
    Ratio.value_le hboundDen (by decide) (by decide +kernel)
  obtain ⟨hstepDen, hstep⟩ := ofFloat_1e8_value
  push_cast at hboundLow hboundHigh
  obtain ⟨hden, hraised, hbelow, hreached⟩ := raiseValue_spec hboundDen hstepDen
    (by rw [hstep]; norm_num) 8 50 hx hleast hmost (by rw [hstep]; linarith)
  refine ⟨hden, hraised, ?_, hbelow⟩
  rcases hreached with hreached | hreached
  · exact hboundLow.trans hreached
  · refine le_trans ?_ hreached
    have hfactor : ((2 : ℚ) ^ 26) ^ 50 ≤ (999 / 1000 * (Ratio.ofFloat 1e8).value) ^ 50 := by
      rw [hstep]
      exact pow_le_pow_left₀ (by positivity) (by norm_num) 50
    have hone : (1 : ℚ) ≤ ((2 : ℚ) ^ 26) ^ 50 * (2 : ℚ) ^ (-1100 : Int) := by
      rw [← pow_mul, ← zpow_natCast, ← zpow_add₀ two_ne_zero]
      exact one_le_zpow₀ one_le_two (by decide)
    calc (99 / 10 ^ 10 : ℚ) ≤ 1 := by norm_num
      _ ≤ ((2 : ℚ) ^ 26) ^ 50 * (2 : ℚ) ^ (-1100 : Int) := hone
      _ ≤ (999 / 1000 * (Ratio.ofFloat 1e8).value) ^ 50 * x.value.value :=
          mul_le_mul hfactor hleast (zpow_pos two_pos _).le
            ((pow_pos (pow_pos two_pos _) _).le.trans hfactor)

/-- A positive double lies between one and ten once it has been normalized, or a little above. -/
theorem normalized_spec (hx : 0 < x.den) (hleast : (2 : ℚ) ^ (-1074 : Int) ≤ x.value)
    (hmost : x.value < (2 : ℚ) ^ (1024 : Int)) :
    0 < (normalized x).value.den ∧ 1 ≤ (normalized x).value.value ∧
      (normalized x).value.value ≤ 1004 / 100 := by
  obtain ⟨hden, hleast', hbelow⟩ := over_scaleOf_spec hx hleast hmost
  have hform : normalized x = raiseValue one ten 1 10 (raiseValue (.ofFloat 1e-8) (.ofFloat 1e8) 8
      50 ⟨x.over (scaleOf x).value, (scaleOf x).power⟩) := rfl
  obtain ⟨hden', hraised, hsmall, hbelow'⟩ :=
    @raiseSmall_spec ⟨x.over (scaleOf x).value, (scaleOf x).power⟩ hden hleast' hbelow
  rw [hform]
  generalize raiseValue (.ofFloat 1e-8) (.ofFloat 1e8) 8 50
    ⟨x.over (scaleOf x).value, (scaleOf x).power⟩ = raised at *
  obtain ⟨hden'', -, hbelow'', hreached⟩ := raiseValue_spec (show 0 < one.den by decide)
    (show 0 < ten.den by decide) (by rw [ten_value]; norm_num) 1 10 hden'
    (hleast'.trans hraised) hbelow' (by rw [one_value, ten_value]; norm_num)
  refine ⟨hden'', ?_, hbelow''⟩
  rw [one_value, ten_value] at hreached
  rcases hreached with hreached | hreached
  · exact hreached
  · norm_num at hreached
    linarith

/-- A number that has as many places as the digits are taken from: it lies between one and ten. -/
structure Decade (r : Ratio) : Prop where
  den : 0 < r.den
  less : r.value < 10
  places : ∃ k : Nat, r.value = k * (2 : ℚ) ^ (-63 : Int)

theorem one_le_of_rounds {q : ℚ} (hrounds : Rounds q r) (hone : 1 ≤ q) (hsmall : q < 16) :
    1 ≤ r.value := by
  have hunit : ((2 ^ 60 : Nat) : ℚ) * (2 : ℚ) ^ (-60 : Int) = 1 := by norm_num
  have hge := hrounds.ge hsmall (Nat.two_pow_pos 60) (hunit.trans_le hone)
  exact hunit.symm.trans_le hge

/-- Half a unit of the fifteenth digit may carry a number over ten, but then it is divided. -/
theorem roundedUp_spec {x : Scaled} (hx : 0 < x.value.den) (hone : 1 ≤ x.value.value)
    (hmost : x.value.value ≤ 1004 / 100) :
    Decade (roundedUp x).value ∧ 1 ≤ (roundedUp x).value.value := by
  have hhalfDen : 0 < halfUnit.den := by decide +kernel
  have hhalf : halfUnit.value ≤ ((1 : Nat) : ℚ) / (1000 : Nat) :=
    Ratio.value_le hhalfDen (by decide) (by decide +kernel)
  have hhalf' : 0 ≤ halfUnit.value := div_nonneg (Nat.cast_nonneg _) (Nat.cast_nonneg _)
  have htenthDen : 0 < (Ratio.ofFloat 0.1).den := by decide +kernel
  have htenthLow : ((1 : Nat) : ℚ) / (10 : Nat) ≤ (Ratio.ofFloat 0.1).value :=
    Ratio.le_value htenthDen (by decide) (by decide +kernel)
  have htenthHigh : (Ratio.ofFloat 0.1).value ≤ ((101 : Nat) : ℚ) / (1000 : Nat) :=
    Ratio.value_le htenthDen (by decide) (by decide +kernel)
  norm_num at hhalf htenthLow htenthHigh
  have hrounds := Ratio.plus_rounds hx hhalfDen
  have hsum : 1 ≤ x.value.value + halfUnit.value := by linarith
  obtain ⟨-, hhigh⟩ := hrounds.relative (least_le_one.trans hsum)
  have hraised := one_le_of_rounds hrounds hsum (by linarith)
  simp only [roundedUp]
  by_cases hcarry : ten.atMost (x.value.plus halfUnit) = true
  · rw [if_pos hcarry]
    rw [Ratio.atMost_iff (by decide) hrounds.den_pos, ten_value] at hcarry
    have hdivided := Ratio.times_rounds hrounds.den_pos htenthDen
    have hone' : 1 ≤ (x.value.plus halfUnit).value * (Ratio.ofFloat 0.1).value := by nlinarith
    have hless : (x.value.plus halfUnit).value * (Ratio.ofFloat 0.1).value ≤ 2 := by nlinarith
    obtain ⟨-, hhigh'⟩ := hdivided.relative (least_le_one.trans hone')
    exact ⟨⟨hdivided.den_pos, by dsimp only; linarith, hdivided.places_of_one_le hone'⟩,
      one_le_of_rounds hdivided hone' (by linarith)⟩
  · rw [if_neg hcarry]
    rw [Ratio.atMost_iff (by decide) hrounds.den_pos, ten_value, not_le] at hcarry
    exact ⟨⟨hrounds.den_pos, hcarry, hrounds.places_of_one_le hsum⟩, hraised⟩

/-- The whole part of a ratio. -/
theorem Ratio.whole_bounds (hden : 0 < r.den) :
    ((r.num / r.den : Nat) : ℚ) ≤ r.value ∧ r.value < (r.num / r.den : Nat) + 1 := by
  constructor
  · exact (Ratio.mul_den_le_iff hden _).mp (Nat.div_mul_le_self _ _)
  · have hless : ¬ (r.num / r.den + 1) * r.den ≤ r.num := by
      rw [not_le, Nat.add_mul, Nat.one_mul]
      exact Nat.lt_div_mul_add hden
    rw [Ratio.mul_den_le_iff hden, not_le] at hless
    exact_mod_cast hless

/-- What is left when a digit has been taken off lies below ten again: it is a whole number of
places short of ten times one. -/
theorem Decade.next (hdecade : Decade r) :
    Decade ((r.minus (.ofNat (r.num / r.den))).times ten) := by
  obtain ⟨hlow, hhigh⟩ := Ratio.whole_bounds hdecade.den
  obtain ⟨k, hk⟩ := hdecade.places
  generalize r.num / r.den = d at hlow hhigh ⊢
  have hunit : (2 : ℚ) ^ (63 : Nat) * (2 : ℚ) ^ (-63 : Int) = 1 := by norm_num
  have hpos : (0 : ℚ) < (2 : ℚ) ^ (-63 : Int) := zpow_pos two_pos _
  have hfits : d * 2 ^ 63 ≤ k := by
    have hle : (d * 2 ^ 63 : ℚ) * (2 : ℚ) ^ (-63 : Int) ≤ k * (2 : ℚ) ^ (-63 : Int) := by
      rw [mul_assoc, hunit, mul_one, ← hk]
      exact hlow
    exact_mod_cast le_of_mul_le_mul_right hle hpos
  have hrest : r.value - d = (k - d * 2 ^ 63 : Nat) * (2 : ℚ) ^ (-63 : Int) := by
    rw [Nat.cast_sub hfits, sub_mul, ← hk, Nat.cast_mul, Nat.cast_pow, Nat.cast_ofNat, mul_assoc,
      hunit, mul_one]
  generalize k - d * 2 ^ 63 = rest at hrest
  have hless : rest < 2 ^ 63 := by
    have hlt : (rest : ℚ) * (2 : ℚ) ^ (-63 : Int) < 2 ^ (63 : Nat) * (2 : ℚ) ^ (-63 : Int) := by
      rw [hunit, ← hrest]
      linarith
    exact_mod_cast lt_of_mul_lt_mul_right hlt hpos.le
  have hminus := Ratio.minus_rounds hdecade.den (show 0 < (Ratio.ofNat d).den from Nat.one_pos)
    (by rwa [Ratio.ofNat_value])
  rw [Ratio.ofNat_value] at hminus
  have hexact := hminus.exact hrest (by linarith)
  have htimes := Ratio.times_rounds hminus.den_pos (show 0 < ten.den by decide)
  rw [hexact, hrest, ten_value] at htimes
  have hplaces : (rest : ℚ) * (2 : ℚ) ^ (-63 : Int) * 10 =
      (rest * 10 : Nat) * (2 : ℚ) ^ (-63 : Int) := by
    push_cast
    ring
  refine ⟨htimes.den_pos, ?_, htimes.places hplaces⟩
  rcases Nat.eq_zero_or_pos rest with rfl | hsome
  · simp only [Nat.cast_zero, zero_mul] at htimes
    rw [htimes.eq_zero]
    norm_num
  · have hcoarse : (2 : ℚ) ^ (-60 : Int) = 8 * (2 : ℚ) ^ (-63 : Int) := by norm_num
    have htop : (rest : ℚ) * (2 : ℚ) ^ (-63 : Int) * 10 ≤
        (10 * 2 ^ 60 - 1 : Nat) * (2 : ℚ) ^ (-60 : Int) := by
      have hstep : rest * 10 ≤ (10 * 2 ^ 60 - 1) * 8 := by omega
      rw [hplaces, hcoarse, ← mul_assoc]
      apply mul_le_mul_of_nonneg_right _ hpos.le
      exact_mod_cast hstep
    have hpositive : 0 < (rest : ℚ) * (2 : ℚ) ^ (-63 : Int) * 10 := by positivity
    have hbelow : ((10 * 2 ^ 60 - 1 : Nat) : ℚ) * (2 : ℚ) ^ (-60 : Int) < 10 := by norm_num
    exact (htimes.le hpositive (by linarith) htop).trans_lt hbelow

theorem isDigit_digitChar {d : Nat} (hd : d < 10) : (digitChar d).isDigit = true := by
  revert d
  decide

/-- Digits that are taken off are proper digits. -/
theorem Decade.leadingDigits (hdecade : Decade r) (count : Nat) :
    AllDigits (leadingDigits r count) := by
  induction count generalizing r with
  | zero => exact fun _ hc => absurd hc (List.not_mem_nil)
  | succ count ih =>
      have hdigit : r.num / r.den < 10 := by
        have hless := (Ratio.whole_bounds hdecade.den).1.trans_lt hdecade.less
        exact_mod_cast hless
      rw [Number.leadingDigits]
      exact List.forall_mem_cons.mpr ⟨isDigit_digitChar hdigit, ih hdecade.next⟩

/-- The digits of a positive double are proper digits, and the first one is not zero. -/
theorem fifteenDigits_spec (hx : 0 < x.den) (hleast : (2 : ℚ) ^ (-1074 : Int) ≤ x.value)
    (hmost : x.value < (2 : ℚ) ^ (1024 : Int)) :
    AllDigits (fifteenDigits x).digits ∧ ∃ c cs, (fifteenDigits x).digits = c :: cs ∧ c ≠ '0' := by
  obtain ⟨hden, hone, hbelow⟩ := normalized_spec hx hleast hmost
  obtain ⟨hdecade, hone'⟩ := roundedUp_spec hden hone hbelow
  have hform : (fifteenDigits x).digits =
      dropZeros (leadingDigits (roundedUp (normalized x)).value 15) := rfl
  rw [hform]
  generalize (roundedUp (normalized x)).value = r at hdecade hone'
  have hall := hdecade.leadingDigits 15
  obtain ⟨k, hsplit⟩ := dropZeros_append (leadingDigits r 15)
  refine ⟨hall.of_subset fun c hc => hsplit ▸ List.mem_append_left _ hc, ?_⟩
  have hfirst : digitChar (r.num / r.den) ≠ '0' := by
    obtain ⟨hlow, hhigh⟩ := Ratio.whole_bounds hdecade.den
    have hless : r.num / r.den < 10 := by exact_mod_cast hlow.trans_lt hdecade.less
    have hsome : 0 < r.num / r.den := by
      have hpositive := hone'.trans_lt hhigh
      have hnat : 1 < r.num / r.den + 1 := by exact_mod_cast hpositive
      omega
    generalize r.num / r.den = d at hless hsome
    revert d
    decide
  rw [Number.leadingDigits] at hsplit ⊢
  cases hdrop : dropZeros (digitChar (r.num / r.den) ::
      leadingDigits ((r.minus (.ofNat (r.num / r.den))).times ten) 14) with
  | nil =>
      rw [hdrop, List.nil_append] at hsplit
      have hmem : digitChar (r.num / r.den) ∈ List.replicate k '0' :=
        hsplit ▸ List.mem_cons_self
      exact absurd (List.eq_of_mem_replicate hmem) hfirst
  | cons c cs =>
      rw [hdrop, List.cons_append] at hsplit
      exact ⟨c, cs, rfl, (List.cons.inj hsplit).1 ▸ hfirst⟩

end PhotoCatalog.Number
