import PhotoCatalog.Proofs.Criteria.WellFormed
import PhotoCatalog.Proofs.Geo.Circle
import PhotoCatalog.Proofs.Number.Arithmetic

/-!
Where the boxes of a circle are defined.  Around a place on the globe every step of their
computation stays within the domain of its function, as long as the sine of the radius is not
negative; and the radius is an angle at which no sine is.
-/

namespace PhotoCatalog.Geo

open PhotoCatalog.Number PhotoCatalog.Query

variable {lat maxKm meters x y : Float} {q : ℚ}

section Constants

theorem amounts_zero : Amounts 0.0 0 := by
  have hparts : partsOf 0.0 = .finite false 0 (-1074) := by rfl
  simp [Amounts, Amount.extended?, hparts, rationalOf_eq]

theorem amounts_one : Amounts 1.0 1 := by decide

theorem amounts_south : Amounts (-90.0) (-90) := by decide

theorem amounts_north : Amounts 90.0 90 := by decide

theorem amounts_earthRadiusKm : Amounts earthRadiusKm 6371 := by decide

theorem amounts_kmPerDegree : ∃ k, Amounts kmPerDegree k ∧ 1 ≤ k ∧ k ≤ 112 := by
  have hlarge : Amounts 112.0 112 := by decide
  exact amounts_of_between amounts_one hlarge (by decide) (by decide)

/-- The cosine up to which a place counts as a pole. -/
theorem amounts_polar : ∃ e, Amounts 1e-12 e ∧ 0 < e := by
  obtain ⟨e, he, -, -⟩ := amounts_of_between (z := 1e-12) amounts_zero amounts_one
    (by decide) (by decide)
  exact ⟨e, he, (amounts_zero.lt_iff he).mp (by decide)⟩

end Constants

theorem not_isInfinite (hx : Amounts x q) : isInfinite x = false := by
  have hgreatest : (Amount.float (1.0 / 0.0)).extended? = some .greatest := by decide
  have hleast : (Amount.float (-1.0 / 0.0)).extended? = some .least := by decide
  rw [Amounts] at hx
  rw [isInfinite, Bool.or_eq_false_iff, ← Bool.not_eq_true, ← Bool.not_eq_true, beq_iff, beq_iff,
    Amount.compare?, Amount.compare?, hx, hgreatest, hleast]
  exact ⟨by simp [Extended.order], by simp [Extended.order]⟩

/-- A latitude in radians is finite. -/
theorem radians_finite (hlow : -90.0 ≤ lat) (hhigh : lat ≤ 90.0) :
    isInfinite (Scalar.radians lat) = false := by
  obtain ⟨l, hlat, hlow', hhigh'⟩ := amounts_of_between amounts_south amounts_north hlow hhigh
  obtain ⟨k, hk, hpos, hless⟩ := amounts_of_between (z := pi / 180.0) amounts_zero amounts_one
    (by decide) (by decide)
  obtain ⟨r, hr, -, -⟩ := (rounded_mul hlat hk).between amounts_south amounts_north
    (by nlinarith) (by nlinarith)
  exact not_isInfinite hr

/-- A double above one that is more than zero is not zero. -/
theorem ne_zero_of_le {w z : Float} {r : ℚ} (hw : Amounts w r) (hpos : 0 < r) (hle : w ≤ z) :
    (z == 0.0) = false := by
  rw [← Bool.not_eq_true, beq_iff]
  intro heq
  obtain ⟨a, b, ha, hb, horder⟩ := Amount.compare?_eq_some_iff.mp heq
  obtain rfl := Option.some.inj (amounts_zero.symm.trans hb)
  cases a with
  | least => cases horder
  | greatest => cases horder
  | number q =>
      rw [Extended.order_number, compare_eq_iff_eq] at horder
      subst horder
      exact absurd ((hw.le_iff ha).mp hle) hpos.not_ge

/-- Away from the poles nothing is divided by zero. -/
theorem divisors_ne_zero {c : Float} (hc : ¬c ≤ 1e-12) :
    (kmPerDegree * c == 0.0) = false ∧ (c == 0.0) = false := by
  obtain ⟨e, he, hpos⟩ := amounts_polar
  obtain ⟨k, hk, hone, -⟩ := amounts_kmPerDegree
  rcases cases_of_not_le he hc with rfl | rfl | ⟨q, hq, hless⟩
  · exact ⟨by decide, by decide⟩
  · exact ⟨by decide, by decide⟩
  · have hproduct := (rounded_mul hk hq).ge he (by nlinarith)
    exact ⟨ne_zero_of_le he hpos hproduct, ne_zero_of_le he hpos ((he.le_iff hq).mpr hless.le)⟩

/-- A ratio of what is not negative to what is more than zero is not negative. -/
theorem ratio_not_low {s c : Float} (hs : ¬s < 0.0) (hc : ¬c ≤ 1e-12) : ¬s / c < -1.0 := by
  have hminus : Amounts (-1.0) (-1) := by decide
  have hundefined : ¬undefined < -1.0 := by decide
  have hinfinity : ¬infinity < -1.0 := by decide
  obtain ⟨e, he, hpos⟩ := amounts_polar
  rcases cases_of_not_lt amounts_zero hs with rfl | rfl | ⟨p, hp, hnonneg⟩
  · rw [undefined_div]
    exact hundefined
  · rcases cases_of_not_le he hc with rfl | rfl | ⟨q, hq, hless⟩
    · rw [div_undefined]
      exact hundefined
    · decide
    · rw [infinity_div hq (hpos.trans hless)]
      exact hinfinity
  · rcases cases_of_not_le he hc with rfl | rfl | ⟨q, hq, hless⟩
    · rw [div_undefined]
      exact hundefined
    · rw [(div_infinity hp).lt_iff hminus]
      norm_num
    · have hq' := hpos.trans hless
      have hquotient : -1 ≤ p / q := by linarith [div_nonneg hnonneg hq'.le]
      exact float_not_lt_of_le ((rounded_div hp hq hq'.ne').ge hminus hquotient)

/-- The radius of a circle as an angle. -/
def radius (meters : Float) : Float := meters / 1000.0 / earthRadiusKm

theorem not_reachesPole (hpole : reachesPole (latitudeSpan lat maxKm) = false) :
    ¬lat - maxKm / kmPerDegree ≤ 0.0 - 90.0 ∧ ¬90.0 ≤ lat + maxKm / kmPerDegree := by
  rw [reachesPole, Bool.or_eq_false_iff] at hpole
  exact ⟨of_decide_eq_false hpole.1, of_decide_eq_false hpole.2⟩

/-- A circle that reaches no pole has a radius between 0 and 2, or one that is not a number. -/
theorem radius_bounds (hlow : -90.0 ≤ lat) (hhigh : lat ≤ 90.0) (hmeters : ¬meters < 0.0)
    (hpole : reachesPole (latitudeSpan lat (meters / 1000.0)) = false) :
    isInfinite (radius meters) = false ∧ ¬radius meters < 0.0 ∧ ¬2.0 < radius meters := by
  have htwo : Amounts 2.0 2 := by decide
  have hthousand : Amounts 1000.0 1000 := by decide
  have hsouth : Amounts (0.0 - 90.0) (-90) := by decide
  obtain ⟨k, hk, hone, hlarge⟩ := amounts_kmPerDegree
  obtain ⟨l, hlat, hlow', hhigh'⟩ := amounts_of_between amounts_south amounts_north hlow hhigh
  obtain ⟨hsouthern, hnorthern⟩ := not_reachesPole hpole
  rcases cases_of_not_lt amounts_zero hmeters with rfl | rfl | ⟨m, hm, hm'⟩
  · exact ⟨by decide, by decide, by decide⟩
  · have hwide : infinity / 1000.0 / kmPerDegree = infinity := by decide
    rw [hwide, add_infinity hlat] at hnorthern
    exact absurd (by decide) hnorthern
  · obtain ⟨km, hkm, hkm', -⟩ := (rounded_div hm hthousand (by norm_num)).between amounts_zero hm
      (by positivity) (by linarith)
    obtain ⟨d, hd, hd', -⟩ := (rounded_div hkm hk (by linarith)).between amounts_zero hkm
      (by positivity) (div_le_self hkm' hone)
    -- The width in degrees stays below 90: towards the nearer pole the box would reach it else.
    have hnarrow : d < 90 := by
      by_contra hwide
      rcases le_total 0 l with hsign | hsign
      · exact hnorthern ((rounded_add hlat hd).ge amounts_north (by linarith))
      · exact hsouthern ((rounded_sub hlat hd).le hsouth (by linarith))
    have hshort : km < 12742 := by
      by_contra hlong
      have hquotient : 90 ≤ km / k := by
        rw [le_div_iff₀ (by linarith)]
        linarith
      have hwide := (rounded_div hkm hk (by linarith)).ge amounts_north hquotient
      exact absurd ((amounts_north.le_iff hd).mp hwide) hnarrow.not_ge
    obtain ⟨r, hr, hr', hr''⟩ := (rounded_div hkm amounts_earthRadiusKm (by norm_num)).between
      amounts_zero htwo (by positivity) (by linarith)
    refine ⟨not_isInfinite hr, fun hless => ?_, fun hless => ?_⟩
    · exact absurd ((hr.lt_iff amounts_zero).mp hless) hr'.not_gt
    · exact absurd ((htwo.lt_iff hr).mp hless) hr''.not_gt

/-- The width of the boxes is defined where the sine of the radius is not negative. -/
theorem longitudeDelta?_defined (hlow : -90.0 ≤ lat) (hhigh : lat ≤ 90.0)
    (hradius : isInfinite (maxKm / earthRadiusKm) = false)
    (hsine : ¬(maxKm / earthRadiusKm).sin < 0.0) :
    ∃ delta, longitudeDelta? lat maxKm = some delta := by
  have hcos : Scalar.cos? (Scalar.radians lat) = some (Scalar.radians lat).cos := by
    simp only [Scalar.cos?, radians_finite hlow hhigh, Bool.false_eq_true, if_false]
  have hsin : Scalar.sin? (maxKm / earthRadiusKm) = some (maxKm / earthRadiusKm).sin := by
    simp only [Scalar.sin?, hradius, Bool.false_eq_true, if_false]
  generalize (Scalar.radians lat).cos = c at hcos
  generalize (maxKm / earthRadiusKm).sin = s at hsin hsine
  rw [longitudeDelta?, hcos]
  simp only [Option.bind_eq_bind, Option.bind_some]
  split
  · exact ⟨none, rfl⟩
  · rename_i hpole
    have hc : ¬c ≤ 1e-12 := fun hle => hpole (decide_eq_true hle)
    obtain ⟨hflat, hcosine⟩ := divisors_ne_zero hc
    have hquotient : ∀ x y : Float, (y == 0.0) = false → Scalar.quotient? x y = some (x / y) :=
      fun x y hy => if_neg (Bool.eq_false_iff.mp hy)
    rw [hquotient _ _ hflat, hsin]
    simp only [Option.bind_some, hquotient _ _ hcosine]
    split
    · exact ⟨none, rfl⟩
    · rename_i hratio
      have hasin : Scalar.asin? (s / c) = some (s / c).asin := by
        refine if_neg fun hbeyond => ?_
        rcases hbeyond with hless | hless
        · exact ratio_not_low hsine hc hless
        · exact hratio (decide_eq_true (float_le_of_lt hless))
      rw [hasin]
      exact ⟨_, rfl⟩

/-- Around a place on the globe there is no circle only where the sine of an angle between 0 and 2
is negative. -/
theorem sine_of_around?_none {p : Place} (hplace : p.IsOnGlobe)
    (hnone : Circle.around? p.latitude p.longitude p.meters = none) :
    ¬radius p.meters < 0.0 ∧ ¬2.0 < radius p.meters ∧ (radius p.meters).sin < 0.0 := by
  obtain ⟨hlow, hhigh⟩ := hplace.latitude
  have hmeters : ¬p.meters < 0.0 := by
    rcases hplace.meters with hpos | hnan
    · exact float_not_lt_of_le (float_le_of_lt hpos)
    · rw [eq_of_partsOf_nan (beq_iff_eq.mp hnan)]
      decide
  cases hpole : reachesPole (latitudeSpan p.latitude (p.meters / 1000.0)) with
  | true =>
      rw [Circle.around?] at hnone
      simp [hpole] at hnone
  | false =>
      obtain ⟨hfinite, hpos, hless⟩ := radius_bounds hlow hhigh hmeters hpole
      refine ⟨hpos, hless, ?_⟩
      by_contra hsine
      obtain ⟨delta, hdelta⟩ := longitudeDelta?_defined hlow hhigh hfinite hsine
      rw [Circle.around?] at hnone
      simp [hpole, hdelta] at hnone

/-- A place on the globe has its condition, unless the sine of the radius is negative. -/
theorem placeCondition_eq_error {p : Place} {fault : Fault} (hplace : p.IsOnGlobe)
    (herror : placeCondition p = .error fault) :
    fault = .outsideDomain ∧
      ¬radius p.meters < 0.0 ∧ ¬2.0 < radius p.meters ∧ (radius p.meters).sin < 0.0 := by
  rw [placeCondition_eq] at herror
  cases haround : Circle.around? p.latitude p.longitude p.meters with
  | none =>
      rw [haround] at herror
      cases herror
      exact ⟨rfl, sine_of_around?_none hplace haround⟩
  | some circle =>
      rw [haround] at herror
      cases herror

end PhotoCatalog.Geo
