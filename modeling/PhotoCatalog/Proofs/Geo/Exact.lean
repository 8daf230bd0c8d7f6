import PhotoCatalog.Proofs.Geo.Sphere
import PhotoCatalog.Proofs.Geo.Circle

/-!
The formulas of the globe over the real numbers.  Sine, cosine, arc sine and root are the functions
of mathematics, and the distance that a query computes is the great-circle distance.
-/

namespace PhotoCatalog.Geo

open Real
open PhotoCatalog.Catalog

/-- The real numbers with the functions of mathematics. -/
noncomputable instance : Scalar ℝ where
  less x y := decide (x < y)
  atMost x y := decide (x ≤ y)
  radians x := x * (π / 180)
  degrees x := x * (180 / π)
  square x := x ^ 2
  quotient? x y := if y = 0 then none else some (x / y)
  sin? x := some (sin x)
  cos? x := some (cos x)
  asin? x := if x < -1 ∨ 1 < x then none else some (arcsin x)
  sqrt? x := if x < 0 then none else some √x

section

variable {x y : ℝ}

@[simp] theorem less_iff : Scalar.less x y = true ↔ x < y := decide_eq_true_iff

@[simp] theorem atMost_iff : Scalar.atMost x y = true ↔ x ≤ y := decide_eq_true_iff

theorem radians_real (x : ℝ) : Scalar.radians x = x * (π / 180) := rfl

theorem degrees_real (x : ℝ) : Scalar.degrees x = x * (180 / π) := rfl

theorem square_real (x : ℝ) : Scalar.square x = x ^ 2 := rfl

theorem sin?_real (x : ℝ) : Scalar.sin? x = some (sin x) := rfl

theorem cos?_real (x : ℝ) : Scalar.cos? x = some (cos x) := rfl

theorem asin?_real (hlow : -1 ≤ x) (hhigh : x ≤ 1) : Scalar.asin? x = some (arcsin x) :=
  if_neg (not_or.mpr ⟨hlow.not_gt, hhigh.not_gt⟩)

theorem sqrt?_real (hx : 0 ≤ x) : Scalar.sqrt? x = some √x := if_neg hx.not_gt

theorem quotient?_real (hy : y ≠ 0) : Scalar.quotient? x y = some (x / y) := if_neg hy

theorem greater_real (x y : ℝ) : greater x y = max x y := by
  rw [greater, max_comm, max_def_lt]
  simp only [less_iff]
  split <;> split <;> linarith

theorem lesser_real (x y : ℝ) : lesser x y = min x y := by
  rw [lesser, min_comm, min_def_lt]
  simp only [less_iff]

theorem radians_sub (x y : ℝ) : Scalar.radians (x - y) = Scalar.radians x - Scalar.radians y :=
  sub_mul x y (π / 180)

theorem degrees_sub (x y : ℝ) : Scalar.degrees (x - y) = Scalar.degrees x - Scalar.degrees y :=
  sub_mul x y (180 / π)

theorem abs_radians (x : ℝ) : |Scalar.radians x| = Scalar.radians |x| := by
  rw [radians_real, radians_real, abs_mul, abs_of_pos (by positivity : 0 < π / 180)]

theorem abs_degrees (x : ℝ) : |Scalar.degrees x| = Scalar.degrees |x| := by
  rw [degrees_real, degrees_real, abs_mul, abs_of_pos (by positivity : 0 < 180 / π)]

theorem degrees_radians (x : ℝ) : Scalar.degrees (Scalar.radians x) = x := by
  rw [degrees_real, radians_real]
  field_simp

theorem radians_le_radians (hle : x ≤ y) : Scalar.radians x ≤ Scalar.radians y :=
  mul_le_mul_of_nonneg_right hle (by positivity)

theorem degrees_lt_degrees (hless : x < y) : Scalar.degrees x < Scalar.degrees y :=
  mul_lt_mul_of_pos_right hless (by positivity)

end

section

variable {φ ψ θ : ℝ}

theorem arcKm_real (hφ : 0 ≤ cos φ) (hψ : 0 ≤ cos ψ) :
    arcKm φ ψ (ψ - φ) θ = some (6371 * arc φ ψ θ) := by
  have hhaversine : lesser 1.0 (Scalar.square (sin ((ψ - φ) / 2.0)) +
      cos φ * cos ψ * Scalar.square (sin (θ / 2.0))) = haversine φ ψ θ := by
    rw [lesser_real, square_real, square_real]
    norm_num
    exact min_eq_right (haversine_le_one θ hφ hψ)
  obtain ⟨hlow, hhigh⟩ := root_bounds θ hφ hψ
  simp only [arcKm, sin?_real, cos?_real, Option.bind_eq_bind, Option.bind_some, hhaversine,
    sqrt?_real (haversine_nonneg θ hφ hψ), asin?_real hlow hhigh, arc, earthRadiusKm]
  norm_num
  ring

/-- A point of the globe, in degrees. -/
structure OnGlobe (latitude longitude : ℝ) : Prop where
  southernmost : -90 ≤ latitude
  northernmost : latitude ≤ 90
  westernmost : -180 ≤ longitude
  easternmost : longitude ≤ 180

variable {lat lon lat' lon' : ℝ}

theorem OnGlobe.abs_radians_le (h : OnGlobe lat lon) : |Scalar.radians lat| ≤ π / 2 := by
  have hquarter := radians_le_radians (abs_le.mpr ⟨h.southernmost, h.northernmost⟩)
  rw [← abs_radians, radians_real 90] at hquarter
  linarith

theorem OnGlobe.cos_nonneg (h : OnGlobe lat lon) : 0 ≤ cos (Scalar.radians lat) :=
  cos_nonneg_of_mem_Icc (abs_le.mp h.abs_radians_le)

/-- The arc between two points. -/
noncomputable def arcBetween (lat lon lat' lon' : ℝ) : ℝ :=
  arc (Scalar.radians lat) (Scalar.radians lat') (Scalar.radians (lon' - lon))

theorem haversineKm_real (h : OnGlobe lat lon) (h' : OnGlobe lat' lon') :
    haversineKm lat lon lat' lon' = some (6371 * arcBetween lat lon lat' lon') := by
  rw [haversineKm, radians_sub lat' lat, arcKm_real h.cos_nonneg h'.cos_nonneg, arcBetween]

end

section

variable {x y : ℝ} {f : Catalog.Function}

theorem number?_real (x : ℝ) : number? x = some x := if_pos (atMost_iff.mpr le_rfl)

theorem combine_real (op : ℝ → ℝ → ℝ) (x y : ℝ) : combine op (some x) (some y) = some (op x y) :=
  number?_real _

theorem valueAt?_of_eval (heval : f.eval x = some y) : valueAt? f (some x) = some (some y) := by
  rw [valueAt?, heval, Option.map_some, number?_real]

theorem valueAt?_radians (x : ℝ) : valueAt? .radians (some x) = some (some (Scalar.radians x)) :=
  valueAt?_of_eval rfl

theorem valueAt?_sin (x : ℝ) : valueAt? .sin (some x) = some (some (sin x)) := valueAt?_of_eval rfl

theorem valueAt?_cos (x : ℝ) : valueAt? .cos (some x) = some (some (cos x)) := valueAt?_of_eval rfl

theorem valueAt?_sqrt (hx : 0 ≤ x) : valueAt? .sqrt (some x) = some (some √x) := by
  apply valueAt?_of_eval
  rw [Catalog.Function.eval, greater_real]
  norm_num
  rw [max_eq_right hx, sqrt?_real hx]

theorem valueAt?_asin (hlow : -1 ≤ x) (hhigh : x ≤ 1) :
    valueAt? .asin (some x) = some (some (arcsin x)) := by
  apply valueAt?_of_eval
  rw [Catalog.Function.eval, greater_real, lesser_real]
  norm_num
  rw [max_eq_right hlow, min_eq_right hhigh, asin?_real hlow hhigh]

theorem halfSine?_real (x y : ℝ) : halfSine? (some x) (some y) =
    some (some (sin ((Scalar.radians x - Scalar.radians y) / 2))) := by
  simp only [halfSine?, difference?, valueAt?_radians, Option.bind_eq_bind, Option.bind_some,
    Option.pure_def, combine_real, valueAt?_sin]
  norm_num

variable {lat lon lat' lon' : ℝ}

/-- A query computes the same distance. -/
theorem queryKm?_real (h : OnGlobe lat lon) (h' : OnGlobe lat' lon') :
    queryKm? (some lat') (some lon') (some lat) (some lon) =
      some (some (6371 * arcBetween lat lon lat' lon')) := by
  have hhaversine :
      sin ((Scalar.radians lat' - Scalar.radians lat) / 2) *
          sin ((Scalar.radians lat' - Scalar.radians lat) / 2) +
        cos (Scalar.radians lat) * cos (Scalar.radians lat') *
          sin ((Scalar.radians lon' - Scalar.radians lon) / 2) *
          sin ((Scalar.radians lon' - Scalar.radians lon) / 2) =
        haversine (Scalar.radians lat) (Scalar.radians lat') (Scalar.radians (lon' - lon)) := by
    rw [haversine, radians_sub]
    ring
  have hnonneg := haversine_nonneg (Scalar.radians (lon' - lon)) h.cos_nonneg h'.cos_nonneg
  obtain ⟨hlow, hhigh⟩ := root_bounds (Scalar.radians (lon' - lon)) h.cos_nonneg h'.cos_nonneg
  simp only [queryKm?, halfSine?_real, valueAt?_radians, valueAt?_cos, Option.bind_eq_bind,
    Option.bind_some, Option.pure_def, combine_real, hhaversine, valueAt?_sqrt hnonneg,
    valueAt?_asin hlow hhigh, arcBetween, arc]
  norm_num
  ring

end

end PhotoCatalog.Geo
