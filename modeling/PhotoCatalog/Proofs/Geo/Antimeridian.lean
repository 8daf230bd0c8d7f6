import PhotoCatalog.Proofs.Geo.Boxes

/-!
The longitudes of a circle.  Longitudes lie on a circle of 360 degrees, so the range of a half width
around a center can run past the antimeridian, and what runs past is put back on the other side.
The boxes that come of it are one or two, within the longitudes and apart from each other, and they
tell exactly what is nearer to the center than the half width from what is farther.
-/

namespace PhotoCatalog.Geo

open Real

variable {lat lon lon' maxKm meters width : ℝ} {box : ℝ × ℝ}

section CircularDifference

/-- How far apart two longitudes are on the circle: the least of their differences in degrees, any
number of full turns added. -/
noncomputable def circularDifference (lon lon' : ℝ) : ℝ := ⨅ k : ℤ, |lon' - lon + 360 * k|

/-- The least difference is that of some number of turns, namely of the one that rounding finds. -/
theorem circularDifference_isLeast (lon lon' : ℝ) :
    IsLeast (Set.range fun k : ℤ => |lon' - lon + 360 * k|) (circularDifference lon lon') := by
  have hturns : ∀ k : ℤ, |lon' - lon + 360 * k| = 360 * |(lon' - lon) / 360 - (-k : ℤ)| := by
    intro k
    have hscale : lon' - lon + 360 * k = 360 * ((lon' - lon) / 360 - (-k : ℤ)) := by
      push_cast
      ring
    rw [hscale, abs_mul, abs_of_pos (by norm_num : (0 : ℝ) < 360)]
  have hleast : IsLeast (Set.range fun k : ℤ => |lon' - lon + 360 * k|)
      |lon' - lon + 360 * (-round ((lon' - lon) / 360) : ℤ)| := by
    refine ⟨⟨_, rfl⟩, ?_⟩
    rintro _ ⟨k, rfl⟩
    dsimp only
    rw [hturns, hturns, neg_neg]
    exact mul_le_mul_of_nonneg_left (round_le _ _) (by norm_num)
  rwa [circularDifference, iInf, hleast.csInf_eq]

theorem circularDifference_le (k : ℤ) : circularDifference lon lon' ≤ |lon' - lon + 360 * k| :=
  (circularDifference_isLeast lon lon').2 ⟨k, rfl⟩

/-- Longitudes that are less than half a turn apart are so at once, or after one turn. -/
theorem exists_turn_of_circularDifference_lt (hwest : -180 ≤ lon) (heast : lon ≤ 180)
    (hwest' : -180 ≤ lon') (heast' : lon' ≤ 180) (hless : width < 180)
    (hnear : circularDifference lon lon' < width) :
    ∃ turn, (turn = 0 ∨ turn = 360 ∨ turn = -360) ∧ |lon' - lon - turn| < width := by
  obtain ⟨k, hk⟩ := (circularDifference_isLeast lon lon').1
  rw [← hk] at hnear
  obtain ⟨hleft, hright⟩ := abs_lt.mp hnear
  -- Two longitudes differ by a turn at most, so two turns are too many.
  have hlow : -2 < k := by
    have : (-2 : ℝ) < k := by linarith
    exact_mod_cast this
  have hhigh : k < 2 := by
    have : (k : ℝ) < 2 := by linarith
    exact_mod_cast this
  refine ⟨-(360 * k), ?_, by rwa [sub_neg_eq_add]⟩
  obtain rfl | rfl | rfl : k = 0 ∨ k = -1 ∨ k = 1 := by omega
  · exact .inl (by norm_num)
  · exact .inr (.inl (by norm_num))
  · exact .inr (.inr (by norm_num))

end CircularDifference

section Boxes

theorem longitudeBoxes_length (lon width : ℝ) :
    (longitudeBoxes lon width).length = 1 ∨ (longitudeBoxes lon width).length = 2 := by
  rw [longitudeBoxes_real]
  split_ifs
  · exact .inr rfl
  · exact .inr rfl
  · exact .inl rfl

/-- A box lies within the longitudes, and after some turns within the range of the half width. -/
theorem bounds_of_mem_longitudeBoxes (hwest : -180 ≤ lon) (heast : lon ≤ 180) (hpos : 0 < width)
    (hless : width < 180) (hbox : box ∈ longitudeBoxes lon width) :
    (-180 ≤ box.1 ∧ box.1 ≤ box.2 ∧ box.2 ≤ 180) ∧
      ∃ k : ℤ, lon - width ≤ box.1 + 360 * k ∧ box.2 + 360 * k ≤ lon + width := by
  rw [longitudeBoxes_real] at hbox
  -- Only the box on the other side of the antimeridian is a turn away from the range.
  split_ifs at hbox with hlow hhigh
  · rcases List.mem_pair.mp hbox with rfl | rfl
    · refine ⟨⟨by linarith, by linarith, by linarith⟩, -1, ?_, ?_⟩ <;> push_cast <;> linarith
    · refine ⟨⟨by linarith, by linarith, by linarith⟩, 0, ?_, ?_⟩ <;> push_cast <;> linarith
  · rcases List.mem_pair.mp hbox with rfl | rfl
    · refine ⟨⟨by linarith, by linarith, by linarith⟩, 0, ?_, ?_⟩ <;> push_cast <;> linarith
    · refine ⟨⟨by linarith, by linarith, by linarith⟩, 1, ?_, ?_⟩ <;> push_cast <;> linarith
  · obtain rfl := List.mem_singleton.mp hbox
    refine ⟨⟨by linarith, by linarith, by linarith⟩, 0, ?_, ?_⟩ <;> push_cast <;> linarith

/-- No box holds what is farther than the half width. -/
theorem circularDifference_le_of_inBox (hwest : -180 ≤ lon) (heast : lon ≤ 180) (hpos : 0 < width)
    (hless : width < 180) (hbox : box ∈ longitudeBoxes lon width) (hin : InBox box lon') :
    circularDifference lon lon' ≤ width := by
  obtain ⟨-, k, hlow, hhigh⟩ := bounds_of_mem_longitudeBoxes hwest heast hpos hless hbox
  obtain ⟨hleft, hright⟩ := hin
  calc circularDifference lon lon' ≤ |lon' - lon + 360 * k| := circularDifference_le k
    _ ≤ width := abs_le.mpr ⟨by linarith, by linarith⟩

/-- Two boxes hold no longitude in common, since the whole range is shorter than a turn. -/
theorem longitudeBoxes_apart (hless : width < 180) :
    (longitudeBoxes lon width).Pairwise fun box box' => ∀ x, ¬(InBox box x ∧ InBox box' x) := by
  rw [longitudeBoxes_real]
  split_ifs with hlow hhigh
  · refine List.pairwise_pair.mpr ?_
    rintro x ⟨⟨hleft, -⟩, -, hright⟩
    linarith
  · refine List.pairwise_pair.mpr ?_
    rintro x ⟨⟨hleft, -⟩, -, hright⟩
    linarith
  · exact List.pairwise_singleton _ _

/-- What the boxes of a half width around a longitude are to be.  At the half width itself they may
go either way: the two longitudes of the antimeridian are one place, but a box can end at one of
them. -/
structure BoxesAround (lon width : ℝ) (boxes : List (ℝ × ℝ)) : Prop where
  oneOrTwo : boxes.length = 1 ∨ boxes.length = 2
  inRange : ∀ box ∈ boxes, -180 ≤ box.1 ∧ box.1 ≤ box.2 ∧ box.2 ≤ 180
  apart : boxes.Pairwise fun box box' => ∀ x, ¬(InBox box x ∧ InBox box' x)
  near : ∀ x, -180 ≤ x → x ≤ 180 → circularDifference lon x < width → ∃ box ∈ boxes, InBox box x
  far : ∀ x, -180 ≤ x → x ≤ 180 → width < circularDifference lon x → ∀ box ∈ boxes, ¬InBox box x

theorem longitudeBoxes_around (hwest : -180 ≤ lon) (heast : lon ≤ 180) (hpos : 0 < width)
    (hless : width < 180) : BoxesAround lon width (longitudeBoxes lon width) where
  oneOrTwo := longitudeBoxes_length lon width
  inRange := fun _ hbox => (bounds_of_mem_longitudeBoxes hwest heast hpos hless hbox).1
  apart := longitudeBoxes_apart hless
  near := by
    intro x hwest' heast' hnear
    obtain ⟨turn, hturn, hdistance⟩ :=
      exists_turn_of_circularDifference_lt hwest heast hwest' heast' hless hnear
    exact exists_inBox hwest' heast' hless hturn hdistance
  far := by
    intro x _ _ hfar box hbox hin
    exact hfar.not_ge (circularDifference_le_of_inBox hwest heast hpos hless hbox hin)

end Boxes

section HalfWidth

/-- A half width is never as great as half a turn. -/
theorem lt_of_longitudeDelta? (hdelta : longitudeDelta? lat maxKm = some (some width)) :
    width < 180 := by
  rw [longitudeDelta?, cos?_real, Option.bind_eq_bind, Option.bind_some] at hdelta
  split at hdelta
  · cases hdelta
  · obtain ⟨flat, -, hdelta⟩ := Option.bind_eq_some_iff.mp hdelta
    obtain ⟨sine, -, hdelta⟩ := Option.bind_eq_some_iff.mp hdelta
    obtain ⟨ratio, -, hdelta⟩ := Option.bind_eq_some_iff.mp hdelta
    split at hdelta
    · cases hdelta
    · obtain ⟨angle, -, hdelta⟩ := Option.bind_eq_some_iff.mp hdelta
      dsimp only at hdelta
      split at hdelta
      · cases hdelta
      · rename_i hwide
        cases hdelta
        rw [atMost_iff, not_le] at hwide
        norm_num at hwide
        exact hwide

/-- On the equator a circle reaches as far in longitude as in latitude. -/
theorem longitudeDelta?_equator (hkm : 0 < maxKm) (hquarter : maxKm / 6371 < π / 2) :
    longitudeDelta? 0 maxKm = some (some (maxKm / 111.12)) := by
  have hradius : 0 < maxKm / 6371 := by positivity
  have hcos : cos (Scalar.radians (0 : ℝ)) = 1 := by rw [radians_real, zero_mul, cos_zero]
  have hsin : 0 ≤ sin (maxKm / 6371) :=
    sin_nonneg_of_nonneg_of_le_pi hradius.le (by linarith [pi_pos])
  have hclear : sin (maxKm / 6371) < 1 := by
    rw [← sin_pi_div_two]
    exact sin_lt_sin_of_lt_of_le_pi_div_two (by linarith [pi_pos]) le_rfl hquarter
  have hreach : reach 0 maxKm = maxKm / 111.12 := by
    have hangle : arcsin (sin (maxKm / 6371)) = maxKm / 6371 :=
      arcsin_sin (by linarith [pi_pos]) hquarter.le
    rw [reach, hcos, mul_one, div_one, hangle, degrees_real]
    apply max_eq_left
    rw [div_mul_div_comm, div_le_div_iff₀ (by positivity) (by norm_num)]
    nlinarith [kmPerDegree_lt]
  have hwidth : maxKm / 111.12 < 180 := by
    rw [div_lt_iff₀ (by norm_num)] at hquarter ⊢
    linarith [pi_lt_d2]
  rw [longitudeDelta?_eq (by rw [hcos]; exact one_pos) hsin, hreach, hcos, div_one,
    if_neg (by norm_num), if_neg hclear.not_ge, if_neg hwidth.not_ge]

theorem exists_around_of_longitudeDelta?
    (hpole : reachesPole (latitudeSpan lat (meters / 1000)) = false)
    (hdelta : longitudeDelta? lat (meters / 1000) = some (some width)) :
    ∃ circle, Circle.around? lat lon meters = some circle ∧
      circle.lonBoxes = longitudeBoxes lon width := by
  have hthousand : meters / 1000.0 = meters / 1000 := by norm_num
  rw [Circle.around?, hthousand]
  simp only [hpole, hdelta, Bool.false_eq_true, ↓reduceIte]
  exact ⟨_, rfl, rfl⟩

end HalfWidth

/-- A circle that reaches no pole and is bounded in longitude has its boxes around the longitude of
its center. -/
theorem circle_bounds_longitudes (hwest : -180 ≤ lon) (heast : lon ≤ 180)
    (hpole : reachesPole (latitudeSpan lat (meters / 1000)) = false)
    (hdelta : longitudeDelta? lat (meters / 1000) = some (some width)) (hpos : 0 < width) :
    ∃ circle, Circle.around? lat lon meters = some circle ∧
      BoxesAround lon width circle.lonBoxes := by
  obtain ⟨circle, hcircle, hboxes⟩ := exists_around_of_longitudeDelta? hpole hdelta
  refine ⟨circle, hcircle, ?_⟩
  rw [hboxes]
  exact longitudeBoxes_around hwest heast hpos (lt_of_longitudeDelta? hdelta)

/-- Five kilometers around a point just west of the antimeridian: the boxes hold what lies just east
of it. -/
theorem circle_bounds_longitudes_antimeridian :
    (-180 : ℝ) ≤ 179.99 ∧ (179.99 : ℝ) ≤ 180 ∧
      reachesPole (latitudeSpan (0 : ℝ) (5000 / 1000)) = false ∧
      longitudeDelta? (0 : ℝ) (5000 / 1000) = some (some (5000 / 1000 / 111.12)) ∧
      (0 : ℝ) < 5000 / 1000 / 111.12 ∧
      ∃ circle, Circle.around? (0 : ℝ) 179.99 5000 = some circle ∧
        BoxesAround 179.99 (5000 / 1000 / 111.12) circle.lonBoxes ∧
        ∃ box ∈ circle.lonBoxes, InBox box (-179.99) := by
  have hwest : (-180 : ℝ) ≤ 179.99 := by norm_num
  have heast : (179.99 : ℝ) ≤ 180 := by norm_num
  have hpole : reachesPole (latitudeSpan (0 : ℝ) (5000 / 1000)) = false := by
    rw [reachesPole, latitudeSpan, kmPerDegree, Bool.or_eq_false_iff, ← Bool.not_eq_true,
      ← Bool.not_eq_true, atMost_iff, atMost_iff]
    norm_num
  have hdelta : longitudeDelta? (0 : ℝ) (5000 / 1000) = some (some (5000 / 1000 / 111.12)) :=
    longitudeDelta?_equator (by norm_num) (by linarith [pi_gt_d2])
  have hpos : (0 : ℝ) < 5000 / 1000 / 111.12 := by norm_num
  obtain ⟨circle, hcircle, haround⟩ := circle_bounds_longitudes hwest heast hpole hdelta hpos
  refine ⟨hwest, heast, hpole, hdelta, hpos, circle, hcircle, haround, ?_⟩
  apply haround.near (-179.99) (by norm_num) (by norm_num)
  calc circularDifference 179.99 (-179.99) ≤ |(-179.99 : ℝ) - 179.99 + 360 * (1 : ℤ)| :=
        circularDifference_le 1
    _ < 5000 / 1000 / 111.12 := by
        rw [abs_lt]
        norm_num

end PhotoCatalog.Geo
