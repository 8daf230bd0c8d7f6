import PhotoCatalog.Geo.Circle
import PhotoCatalog.Value.Convert

/-!
Distances and circles from values.  Only numbers count here: a text is no coordinate.
-/

namespace PhotoCatalog.Geo

/-- The double that a number is; a value that is no number is of the wrong kind. -/
def coordinate (value : Value) : Except Fault Float :=
  match value with
  | .bool _ | .int _ | .float _ => value.toFloat
  | _ => .error .wrongKind

/-- The result of a function of real numbers, or the fault of an argument outside of its domain. -/
def defined {α : Type} : Option α → Except Fault α
  | some a => .ok a
  | none => .error .outsideDomain

/-- The whole number that a value is, if it is one. -/
def whole? : Value → Option Int
  | .bool b => some (if b then 1 else 0)
  | .int n => some n
  | _ => none

/-- The difference of two numbers; whole numbers are subtracted exactly. -/
def difference (a b : Value) : Except Fault Float :=
  match whole? a, whole? b with
  | some m, some n => floatOfInt (m - n)
  | _, _ => do
    let x ← coordinate a
    let y ← coordinate b
    return x - y

/-- The distance in kilometers of two points given in degrees. -/
def distanceKm (lat₁ lon₁ lat₂ lon₂ : Value) : Except Fault Float := do
  let phi₁ ← coordinate lat₁
  let phi₂ ← coordinate lat₂
  let dphi ← difference lat₂ lat₁
  let dlambda ← difference lon₂ lon₁
  defined (arcKm (Scalar.radians phi₁) (Scalar.radians phi₂) (Scalar.radians dphi)
    (Scalar.radians dlambda))

/-- A circle on the globe with the boxes around it.  No longitude box means that all longitudes are
allowed; two boxes mean that the circle crosses the antimeridian. -/
structure Region where
  latColumn : String
  lonColumn : String
  latitude : Value
  longitude : Value
  maxKm : Float
  latBox : Float × Float
  lonBoxes : List (Float × Float)

/-- The region within a distance of a point; the longitude is looked at only where longitudes are
bounded. -/
def Region.around (latColumn lonColumn : String) (latitude longitude meters : Value) :
    Except Fault Region := do
  let maxKm := (← coordinate meters) / 1000.0
  let lat ← coordinate latitude
  let span := latitudeSpan lat maxKm
  let delta ← if reachesPole span then pure none else defined (longitudeDelta? lat maxKm)
  let boxes ← match delta with
    | none => pure []
    | some delta => (coordinate longitude).map (longitudeBoxes · delta)
  return ⟨latColumn, lonColumn, latitude, longitude, maxKm, latitudeBox span, boxes⟩

end PhotoCatalog.Geo
