import Mathlib.Analysis.Real.Pi.Bounds
import PhotoCatalog.Proofs.Geo.Exact

/-!
Circles over the real numbers.  Around every point of the globe the circle is defined, and a query
for it selects every point that is nearer to the center than the distance and none that is farther,
so the boxes lose no point: neither at a high latitude, nor across the antimeridian, nor near a
pole.
-/

namespace PhotoCatalog.Geo

open Real
open PhotoCatalog.Catalog

def InBox (box : ℝ × ℝ) (x : ℝ) : Prop := box.1 ≤ x ∧ x ≤ box.2

/-- The boxes of a circle cover a place. -/
def Circle.Covers (circle : Circle ℝ) (lat lon : ℝ) : Prop :=
  InBox circle.latBox lat ∧ (circle.lonBoxes = [] ∨ ∃ box ∈ circle.lonBoxes, InBox box lon)

theorem isBetween_real (x : ℝ) (box : ℝ × ℝ) :
    ∃ b, isBetween (some x) box = some b ∧ (b = true ↔ InBox box x) := by
  refine ⟨decide (box.1 ≤ x) && decide (x ≤ box.2), ?_, ?_⟩
  · rw [isBetween, number?_real, number?_real]
    exact Truth.and_some _ _
  · rw [Bool.and_eq_true, decide_eq_true_iff, decide_eq_true_iff, InBox]

theorem isBetween_some (x : ℝ) (boxes : List (ℝ × ℝ)) :
    ∃ b, (boxes.map (isBetween (some x))).foldr Truth.or (some false) = some b ∧
      (b = true ↔ ∃ box ∈ boxes, InBox box x) := by
  induction boxes with
  | nil => exact ⟨false, rfl, by simp⟩
  | cons box boxes ih =>
      obtain ⟨b, hb, hbox⟩ := isBetween_real x box
      obtain ⟨rest, hrest, hboxes⟩ := ih
      refine ⟨b || rest, ?_, ?_⟩
      · rw [List.map_cons, List.foldr_cons, hb, hrest, Truth.or_some]
      · rw [Bool.or_eq_true, hbox, hboxes, List.exists_mem_cons_iff]

theorem Circle.inBoxes_real (circle : Circle ℝ) (lat lon : ℝ) :
    ∃ b, circle.inBoxes (some lat) (some lon) = some b ∧ (b = true ↔ circle.Covers lat lon) := by
  obtain ⟨b, hb, hlat⟩ := isBetween_real lat circle.latBox
  obtain ⟨c, hc, hlon⟩ := isBetween_some lon circle.lonBoxes
  rw [Circle.inBoxes, hb]
  cases hboxes : circle.lonBoxes with
  | nil =>
      refine ⟨b, ?_, ?_⟩
      · cases b <;> rfl
      · rw [Covers, hlat, hboxes]
        simp
  | cons box boxes =>
      rw [hboxes] at hc hlon
      refine ⟨b && c, ?_, ?_⟩
      · rw [if_neg (by simp), hc, Truth.and_some, Truth.and_some, Truth.and_some]
        rfl
      · rw [Bool.and_eq_true, Covers, hlat, hlon, hboxes]
        simp

variable {lat lon lat' lon' maxKm width turn : ℝ}

/-- What a circle selects: the places in its boxes whose distance is not too great. -/
theorem Circle.selects?_real {circle : Circle ℝ} (h : OnGlobe circle.latitude circle.longitude)
    (h' : OnGlobe lat' lon') :
    ∃ selected, circle.selects? (some lat') (some lon') = some (some selected) ∧
      (selected = true ↔ circle.Covers lat' lon' ∧
        6371 * arcBetween circle.latitude circle.longitude lat' lon' ≤ circle.maxKm) := by
  obtain ⟨b, hb, hboxes⟩ := circle.inBoxes_real lat' lon'
  rw [Circle.selects?, hb]
  cases b with
  | false => exact ⟨false, rfl, by simp [← hboxes]⟩
  | true =>
      refine ⟨decide (6371 * arcBetween circle.latitude circle.longitude lat' lon' ≤ circle.maxKm),
        ?_, ?_⟩
      · dsimp only
        rw [number?_real, number?_real, number?_real, queryKm?_real h h']
        rfl
      · rw [← hboxes, decide_eq_true_iff, eq_self, true_and]

/-- A degree of latitude is longer than the boxes take it to be. -/
theorem kmPerDegree_lt : (111.12 : ℝ) < 6371 * (π / 180) := by
  linarith [pi_gt_d2]

theorem inBox_latitude (h : OnGlobe lat lon) (h' : OnGlobe lat' lon')
    (hwithin : 6371 * arcBetween lat lon lat' lon' < maxKm) :
    InBox (latitudeBox (latitudeSpan lat maxKm)) lat' := by
  have harc : |Scalar.radians lat' - Scalar.radians lat| ≤ arcBetween lat lon lat' lon' := by
    apply abs_sub_le_arc h.cos_nonneg h'.cos_nonneg
    have := abs_sub (Scalar.radians lat') (Scalar.radians lat)
    linarith [h.abs_radians_le, h'.abs_radians_le]
  rw [← radians_sub, abs_radians, radians_real] at harc
  have hdelta : |lat' - lat| ≤ maxKm / 111.12 := by
    rw [le_div_iff₀ (by norm_num)]
    nlinarith [abs_nonneg (lat' - lat), kmPerDegree_lt]
  obtain ⟨hlow, hhigh⟩ := abs_le.mp hdelta
  rw [latitudeBox, latitudeSpan, kmPerDegree, InBox]
  constructor
  · rw [greater_real]
    apply max_le
    · norm_num
      exact h'.southernmost
    · dsimp only
      linarith
  · rw [lesser_real]
    apply le_min
    · norm_num
      exact h'.northernmost
    · dsimp only
      linarith

/-- Away from the poles, the radius of a circle is less than the angle to the nearer pole. -/
theorem radius_lt_of_not_reachesPole (hkm : 0 < maxKm)
    (hpole : reachesPole (latitudeSpan lat maxKm) = false) :
    |Scalar.radians lat| + maxKm / 6371 < π / 2 := by
  rw [reachesPole, latitudeSpan, kmPerDegree, Bool.or_eq_false_iff, ← Bool.not_eq_true,
    ← Bool.not_eq_true, atMost_iff, atMost_iff, not_le, not_le] at hpole
  have hdegrees : |lat| + maxKm / 111.12 < 90 := by
    rw [← lt_sub_iff_add_lt, abs_lt]
    norm_num at hpole ⊢
    exact ⟨by linarith [hpole.1], by linarith [hpole.2]⟩
  have hradius : maxKm / 6371 ≤ maxKm / 111.12 * (π / 180) := by
    rw [div_mul_eq_mul_div, div_le_div_iff₀ (by norm_num) (by norm_num)]
    nlinarith [kmPerDegree_lt]
  have := mul_lt_mul_of_pos_right hdegrees (by positivity : 0 < π / 180)
  rw [abs_radians, radians_real]
  linarith

/-- How far the boxes of a circle reach from the longitude of its center, in degrees, where
longitudes are bounded. -/
noncomputable def reach (lat maxKm : ℝ) : ℝ :=
  max (maxKm / (111.12 * cos (Scalar.radians lat)))
    (Scalar.degrees (arcsin (sin (maxKm / 6371) / cos (Scalar.radians lat))))

theorem longitudeDelta?_eq (hcos : 0 < cos (Scalar.radians lat)) (hsin : 0 ≤ sin (maxKm / 6371)) :
    longitudeDelta? lat maxKm = some
      (if cos (Scalar.radians lat) ≤ 1e-12 then none
      else if 1 ≤ sin (maxKm / 6371) / cos (Scalar.radians lat) then none
      else if 180 ≤ reach lat maxKm then none else some (reach lat maxKm)) := by
  have hratio : 0 ≤ sin (maxKm / 6371) / cos (Scalar.radians lat) := div_nonneg hsin hcos.le
  have hearth : (earthRadiusKm : ℝ) = 6371 := by
    rw [earthRadiusKm]
    norm_num
  have hdegree : (kmPerDegree : ℝ) = 111.12 := rfl
  have hflat : 111.12 * cos (Scalar.radians lat) ≠ 0 := by positivity
  have hone : (1.0 : ℝ) = 1 := by norm_num
  have hhalf : (180.0 : ℝ) = 180 := by norm_num
  simp only [longitudeDelta?, cos?_real, sin?_real, Option.bind_eq_bind, Option.bind_some,
    Option.pure_def, hearth, hdegree, hone, hhalf, quotient?_real hcos.ne', quotient?_real hflat,
    atMost_iff]
  split_ifs with hpole hclear hwide
  · rfl
  · rfl
  · rw [asin?_real (by linarith) (not_le.mp hclear).le, Option.bind_some, greater_real]
    exact congrArg some (if_pos hwide)
  · rw [asin?_real (by linarith) (not_le.mp hclear).le, Option.bind_some, greater_real]
    exact congrArg some (if_neg hwide)

/-- The width of the boxes is defined, and it is at least the reach of the circle. -/
theorem longitudeDelta?_real (hcos : 0 < cos (Scalar.radians lat))
    (hsin : 0 ≤ sin (maxKm / 6371)) :
    ∃ delta, longitudeDelta? lat maxKm = some delta ∧ ∀ width, delta = some width →
      width < 180 ∧ sin (maxKm / 6371) / cos (Scalar.radians lat) ≤ 1 ∧
        Scalar.degrees (arcsin (sin (maxKm / 6371) / cos (Scalar.radians lat))) ≤ width := by
  refine ⟨_, longitudeDelta?_eq hcos hsin, fun width hwidth => ?_⟩
  split_ifs at hwidth with hpole hclear hwide
  obtain rfl := Option.some.inj hwidth
  exact ⟨not_le.mp hwide, (not_le.mp hclear).le, le_max_right _ _⟩

theorem longitudeBoxes_real (lon width : ℝ) :
    longitudeBoxes lon width =
      if lon - width < -180 then [(lon - width + 360, 180), (-180, lon + width)]
      else if 180 < lon + width then [(lon - width, 180), (-180, lon + width - 360)]
      else [(lon - width, lon + width)] := by
  simp only [longitudeBoxes, less_iff]
  norm_num

/-- The boxes of a width hold what is nearer than the width, across the antimeridian as well. -/
theorem exists_inBox (hwest : -180 ≤ lon') (heast : lon' ≤ 180) (hwidth : width < 180)
    (hturn : turn = 0 ∨ turn = 360 ∨ turn = -360) (hnear : |lon' - lon - turn| < width) :
    ∃ box ∈ longitudeBoxes lon width, InBox box lon' := by
  obtain ⟨hleft, hright⟩ := abs_lt.mp hnear
  simp only [longitudeBoxes_real, InBox]
  split_ifs with hlow hhigh
  · rcases hturn with rfl | rfl | rfl
    · exact ⟨(-180, lon + width), by simp, by linarith, by linarith⟩
    · exact ⟨(lon - width + 360, 180), by simp, by linarith, by linarith⟩
    · exfalso
      linarith
  · rcases hturn with rfl | rfl | rfl
    · exact ⟨(lon - width, 180), by simp, by linarith, by linarith⟩
    · exfalso
      linarith
    · exact ⟨(-180, lon + width - 360), by simp, by linarith, by linarith⟩
  · rcases hturn with rfl | rfl | rfl
    · exact ⟨(lon - width, lon + width), by simp, by linarith, by linarith⟩
    · exfalso
      linarith
    · exfalso
      linarith

theorem exists_inBox_longitude (h : OnGlobe lat lon) (h' : OnGlobe lat' lon')
    (hclear : |Scalar.radians lat| + maxKm / 6371 < π / 2) (hwidth : width < 180)
    (hratio : sin (maxKm / 6371) / cos (Scalar.radians lat) ≤ 1)
    (hreach : Scalar.degrees (arcsin (sin (maxKm / 6371) / cos (Scalar.radians lat))) ≤ width)
    (hcos : 0 < cos (Scalar.radians lat))
    (hwithin : 6371 * arcBetween lat lon lat' lon' < maxKm) :
    ∃ box ∈ longitudeBoxes lon width, InBox box lon' := by
  have harc : arcBetween lat lon lat' lon' < maxKm / 6371 := by
    rw [lt_div_iff₀ (by norm_num)]
    linarith
  have hround : |Scalar.radians (lon' - lon)| ≤ 2 * π := by
    have hdegrees : |lon' - lon| ≤ 360 := abs_le.mpr
      ⟨by linarith [h.easternmost, h'.westernmost], by linarith [h.westernmost, h'.easternmost]⟩
    have := radians_le_radians hdegrees
    rw [← abs_radians, radians_real 360] at this
    linarith
  obtain ⟨turn, hturn, hnear⟩ :=
    exists_turn_of_arc_lt hcos h'.cos_nonneg hround hclear.le hratio harc
  have hdegrees : |lon' - lon - Scalar.degrees turn| < width := by
    calc |lon' - lon - Scalar.degrees turn|
        = Scalar.degrees |Scalar.radians (lon' - lon) - turn| := by
          rw [← abs_degrees, degrees_sub, degrees_radians]
      _ < Scalar.degrees (arcsin (sin (maxKm / 6371) / cos (Scalar.radians lat))) :=
          degrees_lt_degrees hnear
      _ ≤ width := hreach
  refine exists_inBox h'.westernmost h'.easternmost hwidth ?_ hdegrees
  have hfull : 2 * π * (180 / π) = 360 := by
    field_simp
    norm_num
  rcases hturn with rfl | rfl | rfl
  · exact .inl (zero_mul _)
  · exact .inr (.inl hfull)
  · exact .inr (.inr (by rw [degrees_real, neg_mul, hfull]))

/-- The circle around a point of the globe, whose boxes hold what is nearer than the distance. -/
theorem exists_around {meters : ℝ} (h : OnGlobe lat lon) (hmeters : 0 < meters) :
    ∃ circle, Circle.around? lat lon meters = some circle ∧
      circle.latitude = lat ∧ circle.longitude = lon ∧ circle.maxKm = meters / 1000 ∧
      ∀ lat' lon', OnGlobe lat' lon' → 6371 * arcBetween lat lon lat' lon' < meters / 1000 →
        circle.Covers lat' lon' := by
  have hthousand : meters / 1000.0 = meters / 1000 := by norm_num
  have hkm : 0 < meters / 1000 := by positivity
  rw [Circle.around?, hthousand]
  cases hpole : reachesPole (latitudeSpan lat (meters / 1000)) with
  | true =>
      refine ⟨_, rfl, rfl, rfl, rfl, fun lat' lon' h' hwithin => ?_⟩
      exact ⟨inBox_latitude h h' hwithin, .inl rfl⟩
  | false =>
      have hclear := radius_lt_of_not_reachesPole hkm hpole
      have hcos : 0 < cos (Scalar.radians lat) := by
        apply cos_pos_of_mem_Ioo
        rw [Set.mem_Ioo, ← abs_lt]
        linarith [div_pos hkm (by norm_num : (0 : ℝ) < 6371)]
      have hsin : 0 ≤ sin (meters / 1000 / 6371) := by
        apply sin_nonneg_of_nonneg_of_le_pi (by positivity)
        linarith [abs_nonneg (Scalar.radians lat), pi_pos]
      obtain ⟨delta, hdelta, hwidths⟩ := longitudeDelta?_real hcos hsin
      simp only [Bool.false_eq_true, ↓reduceIte, hdelta]
      refine ⟨_, rfl, rfl, rfl, rfl, fun lat' lon' h' hwithin => ?_⟩
      refine ⟨inBox_latitude h h' hwithin, ?_⟩
      cases delta with
      | none => exact .inl rfl
      | some width =>
          obtain ⟨hwidth, hratio, hreach⟩ := hwidths width rfl
          exact .inr (exists_inBox_longitude h h' hclear hwidth hratio hreach hcos hwithin)

/-- Over the real numbers the circle around a point of the globe is always defined, and it selects
every point of the globe that is nearer than the distance and none that is farther. -/
theorem circle_selects_points_within {meters : ℝ} (h : OnGlobe lat lon) (hmeters : 0 < meters) :
    ∃ circle, Circle.around? lat lon meters = some circle ∧
      ∀ lat' lon', OnGlobe lat' lon' → ∃ km selected,
        haversineKm lat lon lat' lon' = some km ∧
        circle.selects? (some lat') (some lon') = some (some selected) ∧
        (km < meters / 1000 → selected = true) ∧ (meters / 1000 < km → selected = false) := by
  obtain ⟨circle, hcircle, rfl, rfl, hkm, hboxes⟩ := exists_around h hmeters
  refine ⟨circle, hcircle, fun lat' lon' h' => ?_⟩
  obtain ⟨selected, hselects, hselected⟩ := circle.selects?_real h h'
  refine ⟨_, selected, haversineKm_real h h', hselects, fun hnear => ?_, fun hfar => ?_⟩
  · exact hselected.mpr ⟨hboxes lat' lon' h' hnear, by rw [hkm]; exact hnear.le⟩
  · rw [← Bool.not_eq_true, hselected, hkm]
    exact fun hwithin => hfar.not_ge hwithin.2

/-- A point of the antimeridian has two longitudes; its circle selects it under the other one. -/
theorem circle_selects_points_within_antimeridian :
    OnGlobe 0 180 ∧ OnGlobe 0 (-180) ∧ (0 : ℝ) < 1000 ∧
      ∃ circle, Circle.around? (0 : ℝ) 180 1000 = some circle ∧
        circle.selects? (some 0) (some (-180)) = some (some true) := by
  have h : OnGlobe 0 180 := by constructor <;> norm_num
  have h' : OnGlobe 0 (-180) := by constructor <;> norm_num
  have hmeters : (0 : ℝ) < 1000 := by norm_num
  obtain ⟨circle, hcircle, hpoints⟩ := circle_selects_points_within h hmeters
  obtain ⟨km, selected, hkm, hselects, hnear, -⟩ := hpoints 0 (-180) h'
  have harc : arcBetween 0 180 0 (-180) = 0 := by
    have hturn : Scalar.radians (-180 - 180 : ℝ) / 2 = -π := by
      rw [radians_real]
      ring
    rw [arcBetween, arc, haversine, hturn, sin_neg, sin_pi]
    simp
  rw [haversineKm_real h h', harc, mul_zero] at hkm
  obtain rfl := Option.some.inj hkm
  obtain rfl := hnear (by norm_num)
  exact ⟨h, h', hmeters, circle, hcircle, hselects⟩

end PhotoCatalog.Geo
