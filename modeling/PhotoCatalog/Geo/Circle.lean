import PhotoCatalog.Geo.Scalar

/-!
Circles on the globe.  `haversine` is the great-circle distance; `latitudeBox` and `longitudeBoxes`
bound a circle by parallels and meridians, so that most points outside can be told without the
distance formula.
-/

namespace PhotoCatalog.Geo

variable {α : Type} [Scalar α]

/-- The mean radius of the earth in kilometers. -/
def earthRadiusKm : α := 6371.0

/-- Kilometers between two parallels that lie a degree apart. -/
def kmPerDegree : α := 111.12

/-- The distance in kilometers of two points, from their latitudes and from the differences of
latitude and longitude, all in radians. -/
def arcKm (phi₁ phi₂ dphi dlambda : α) : Option α := do
  let s ← Scalar.sin? (dphi / 2.0)
  let c₁ ← Scalar.cos? phi₁
  let c₂ ← Scalar.cos? phi₂
  let t ← Scalar.sin? (dlambda / 2.0)
  let root ← Scalar.sqrt? (lesser 1.0 (Scalar.square s + c₁ * c₂ * Scalar.square t))
  return 2.0 * earthRadiusKm * (← Scalar.asin? root)

/-- The distance in kilometers of two points given in degrees. -/
def haversineKm (lat₁ lon₁ lat₂ lon₂ : α) : Option α :=
  arcKm (Scalar.radians lat₁) (Scalar.radians lat₂) (Scalar.radians (lat₂ - lat₁))
    (Scalar.radians (lon₂ - lon₁))

/-- The latitudes of a circle, before they are cut off at the poles. -/
def latitudeSpan (latitude maxKm : α) : α × α :=
  let delta := maxKm / kmPerDegree
  (latitude - delta, latitude + delta)

/-- Whether the latitudes of a circle reach a pole. -/
def reachesPole (span : α × α) : Bool :=
  Scalar.atMost span.1 (0.0 - 90.0) || Scalar.atMost 90.0 span.2

/-- The latitudes of a circle. -/
def latitudeBox (span : α × α) : α × α :=
  (greater (0.0 - 90.0) span.1, lesser 90.0 span.2)

/-- Half the width in degrees of the longitudes of a circle, or nothing when they are not bounded.
Away from the equator the widest longitude lies poleward of the center, where the sine of the angle
to it is the sine of the radius over the cosine of the latitude. -/
def longitudeDelta? (latitude maxKm : α) : Option (Option α) := do
  let cosLat ← Scalar.cos? (Scalar.radians latitude)
  if Scalar.atMost cosLat 1e-12 then return none
  let flat ← Scalar.quotient? maxKm (kmPerDegree * cosLat)
  let ratio ← Scalar.quotient? (← Scalar.sin? (maxKm / earthRadiusKm)) cosLat
  if Scalar.atMost 1.0 ratio then return none
  let delta := greater flat (Scalar.degrees (← Scalar.asin? ratio))
  return if Scalar.atMost 180.0 delta then none else some delta

/-- The longitudes within a half width of a center; a range across the antimeridian is cut in
two. -/
def longitudeBoxes (longitude delta : α) : List (α × α) :=
  let low := longitude - delta
  let high := longitude + delta
  if Scalar.less low (0.0 - 180.0) then [(low + 360.0, 180.0), (0.0 - 180.0, high)]
  else if Scalar.less 180.0 high then [(low, 180.0), (0.0 - 180.0, high - 360.0)]
  else [(low, high)]

end PhotoCatalog.Geo
