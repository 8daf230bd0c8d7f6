import Mathlib.Analysis.SpecialFunctions.Trigonometric.Inverse

/-!
Circles on a sphere.  The arc between two points is at least their difference in latitude, and a
circle that stays clear of the poles reaches no further in longitude than the angle whose sine is
the sine of the radius over the cosine of the latitude of the center.  Angles are in radians: `φ`
and `ψ` are the latitudes of two points and `θ` is their difference in longitude.
-/

namespace PhotoCatalog.Geo

open Real

variable {φ ψ θ ρ r : ℝ}

/-- The haversine of the arc between two points. -/
noncomputable def haversine (φ ψ θ : ℝ) : ℝ :=
  sin ((ψ - φ) / 2) ^ 2 + cos φ * cos ψ * sin (θ / 2) ^ 2

/-- The arc between two points. -/
noncomputable def arc (φ ψ θ : ℝ) : ℝ := 2 * arcsin √(haversine φ ψ θ)

theorem sin_half_sq (x : ℝ) : sin (x / 2) ^ 2 = (1 - cos x) / 2 := by
  rw [sin_sq_eq_half_sub, mul_div_cancel₀ x two_ne_zero]
  ring

theorem one_sub_haversine (φ ψ θ : ℝ) :
    1 - 2 * haversine φ ψ θ = sin φ * sin ψ + cos φ * cos ψ * cos θ := by
  rw [haversine, sin_half_sq, sin_half_sq, cos_sub]
  ring

theorem haversine_nonneg (θ : ℝ) (hφ : 0 ≤ cos φ) (hψ : 0 ≤ cos ψ) : 0 ≤ haversine φ ψ θ := by
  unfold haversine
  positivity

theorem haversine_le_one (θ : ℝ) (hφ : 0 ≤ cos φ) (hψ : 0 ≤ cos ψ) : haversine φ ψ θ ≤ 1 := by
  have hcos := one_sub_haversine φ ψ θ
  have hsum := cos_add φ ψ
  have hproduct : -(cos φ * cos ψ) ≤ cos φ * cos ψ * cos θ := by
    nlinarith [mul_nonneg hφ hψ, neg_one_le_cos θ]
  linarith [cos_le_one (φ + ψ)]

theorem root_bounds (θ : ℝ) (hφ : 0 ≤ cos φ) (hψ : 0 ≤ cos ψ) :
    -1 ≤ √(haversine φ ψ θ) ∧ √(haversine φ ψ θ) ≤ 1 :=
  ⟨by linarith [sqrt_nonneg (haversine φ ψ θ)], sqrt_le_one.mpr (haversine_le_one θ hφ hψ)⟩

theorem arc_nonneg (φ ψ θ : ℝ) : 0 ≤ arc φ ψ θ :=
  mul_nonneg zero_le_two (arcsin_nonneg.mpr (sqrt_nonneg _))

theorem arc_le_pi (φ ψ θ : ℝ) : arc φ ψ θ ≤ π := by
  have := arcsin_le_pi_div_two √(haversine φ ψ θ)
  rw [arc]
  linarith

/-- The cosine theorem for sides. -/
theorem cos_arc (θ : ℝ) (hφ : 0 ≤ cos φ) (hψ : 0 ≤ cos ψ) :
    cos (arc φ ψ θ) = sin φ * sin ψ + cos φ * cos ψ * cos θ := by
  have hnonneg := haversine_nonneg θ hφ hψ
  obtain ⟨hlow, hhigh⟩ := root_bounds θ hφ hψ
  rw [arc, cos_two_mul', cos_sq', sin_arcsin hlow hhigh, sq_sqrt hnonneg, ← one_sub_haversine]
  ring

/-- Points are at least as far apart as their latitudes. -/
theorem abs_sub_le_arc (hφ : 0 ≤ cos φ) (hψ : 0 ≤ cos ψ) (hdiff : |ψ - φ| ≤ π) :
    |ψ - φ| ≤ arc φ ψ θ := by
  have hhalf : |(ψ - φ) / 2| = |ψ - φ| / 2 := by rw [abs_div, abs_two]
  have hsin : |sin ((ψ - φ) / 2)| ≤ √(haversine φ ψ θ) := by
    apply abs_le_sqrt
    rw [haversine]
    have : 0 ≤ cos φ * cos ψ * sin (θ / 2) ^ 2 := by positivity
    linarith
  have hle : |ψ - φ| / 2 ≤ arcsin √(haversine φ ψ θ) := by
    have hpi : |(ψ - φ) / 2| ≤ π := by linarith [abs_nonneg (ψ - φ)]
    rw [abs_sin_eq_sin_abs_of_abs_le_pi hpi, hhalf] at hsin
    have := monotone_arcsin hsin
    rwa [arcsin_sin (by linarith [abs_nonneg (ψ - φ), pi_pos]) (by linarith)] at this
  rw [arc]
  linarith

/-- Two points of a circle that stays clear of the poles are less than a quarter turn of longitude
apart. -/
theorem cos_turn_pos (hφ : 0 ≤ cos φ) (hψ : 0 ≤ cos ψ) (hpole : |φ| + ρ ≤ π / 2)
    (hwithin : arc φ ψ θ < ρ) : 0 < cos θ := by
  by_contra hturn
  have hbehind : cos φ * cos ψ * cos θ ≤ 0 :=
    mul_nonpos_of_nonneg_of_nonpos (mul_nonneg hφ hψ) (not_lt.mp hturn)
  have hsame : sin φ * sin ψ ≤ |sin φ| := by
    calc sin φ * sin ψ ≤ |sin φ| * |sin ψ| := by
          rw [← abs_mul]
          exact le_abs_self _
      _ ≤ |sin φ| := mul_le_of_le_one_right (abs_nonneg _) (abs_sin_le_one ψ)
  have hpolar : |sin φ| ≤ cos ρ := by
    rw [abs_sin_eq_sin_abs_of_abs_le_pi (by linarith [arc_nonneg φ ψ θ, pi_pos]),
      ← cos_pi_div_two_sub]
    exact cos_le_cos_of_nonneg_of_le_pi (by linarith [arc_nonneg φ ψ θ])
      (by linarith [abs_nonneg φ, pi_pos]) (by linarith)
  have hless : cos ρ < cos (arc φ ψ θ) :=
    cos_lt_cos_of_nonneg_of_le_pi (arc_nonneg φ ψ θ) (by linarith [abs_nonneg φ, pi_pos]) hwithin
  rw [cos_arc θ hφ hψ] at hless
  linarith

/-- Points are at least as far apart as the first one is from the meridian of the other one. -/
theorem cos_mul_abs_sin_le (hφ : 0 ≤ cos φ) (hψ : 0 ≤ cos ψ) :
    cos φ * |sin θ| ≤ sin (arc φ ψ θ) := by
  have hsin : 0 ≤ sin (arc φ ψ θ) :=
    sin_nonneg_of_nonneg_of_le_pi (arc_nonneg φ ψ θ) (arc_le_pi φ ψ θ)
  -- The product of two vectors is at most that of their lengths.
  have hdirections : cos (arc φ ψ θ) ^ 2 ≤
      (sin φ ^ 2 + (cos φ * cos θ) ^ 2) * (sin ψ ^ 2 + cos ψ ^ 2) := by
    rw [cos_arc θ hφ hψ]
    nlinarith [sq_nonneg (sin φ * cos ψ - cos φ * cos θ * sin ψ)]
  rw [sin_sq_add_cos_sq, mul_one, mul_pow] at hdirections
  apply le_of_sq_le_sq _ hsin
  rw [mul_pow, sq_abs, sin_sq, sin_sq (arc φ ψ θ)]
  linarith [sin_sq_add_cos_sq φ]

/-- An angle whose sine is small is near to a full turn, forwards, backwards or not at all. -/
theorem exists_turn (hθ : |θ| ≤ 2 * π) (hcos : 0 < cos θ) (hsin : |sin θ| < r) (hr : r ≤ 1) :
    ∃ turn, (turn = 0 ∨ turn = 2 * π ∨ turn = -(2 * π)) ∧ |θ - turn| < arcsin r := by
  -- Near to a turn, an angle is the arc sine of its sine.
  have hnear : ∀ turn, sin (θ - turn) = sin θ → |θ - turn| ≤ π / 2 →
      |θ - turn| < arcsin r := by
    intro turn hturn hquarter
    have habs : sin |θ - turn| < r := by
      rwa [← abs_sin_eq_sin_abs_of_abs_le_pi (by linarith [pi_pos]), hturn]
    rw [← arcsin_sin (by linarith [abs_nonneg (θ - turn), pi_pos]) hquarter]
    exact strictMonoOn_arcsin ⟨neg_one_le_sin _, sin_le_one _⟩
      ⟨by linarith [abs_nonneg (sin θ)], hr⟩ habs
  -- Between a quarter turn and three quarters, the cosine is not positive.
  have hquarters : |θ| ≤ π / 2 ∨ 3 * (π / 2) ≤ |θ| := by
    by_contra hbetween
    rw [not_or, not_le, not_le] at hbetween
    rw [← cos_abs] at hcos
    refine hcos.not_ge (cos_nonpos_of_pi_div_two_le_of_le hbetween.1.le ?_)
    linarith [hbetween.2]
  rcases hquarters with hquarter | hfar
  · exact ⟨0, .inl rfl, hnear 0 (by rw [sub_zero]) (by rwa [sub_zero])⟩
  · rcases le_abs.mp hfar with hforward | hbackward
    · refine ⟨2 * π, .inr (.inl rfl), hnear _ (sin_sub_two_pi θ) (abs_le.mpr ⟨?_, ?_⟩)⟩
      · linarith
      · linarith [le_abs_self θ, pi_pos]
    · refine ⟨-(2 * π), .inr (.inr rfl), hnear _ ?_ (abs_le.mpr ⟨?_, ?_⟩)⟩
      · rw [sub_neg_eq_add, sin_add_two_pi]
      · linarith [neg_abs_le θ, pi_pos]
      · linarith

/-- How far a circle that stays clear of the poles reaches in longitude. -/
theorem exists_turn_of_arc_lt (hφ : 0 < cos φ) (hψ : 0 ≤ cos ψ) (hθ : |θ| ≤ 2 * π)
    (hpole : |φ| + ρ ≤ π / 2) (hratio : sin ρ / cos φ ≤ 1) (hwithin : arc φ ψ θ < ρ) :
    ∃ turn, (turn = 0 ∨ turn = 2 * π ∨ turn = -(2 * π)) ∧
      |θ - turn| < arcsin (sin ρ / cos φ) := by
  apply exists_turn hθ (cos_turn_pos hφ.le hψ hpole hwithin) _ hratio
  rw [lt_div_iff₀ hφ, mul_comm]
  calc cos φ * |sin θ| ≤ sin (arc φ ψ θ) := cos_mul_abs_sin_le hφ.le hψ
    _ < sin ρ := by
        apply sin_lt_sin_of_lt_of_le_pi_div_two _ _ hwithin
        · linarith [arc_nonneg φ ψ θ, pi_pos]
        · linarith [abs_nonneg φ]

end PhotoCatalog.Geo
