import PhotoCatalog.Criteria.Basic
import PhotoCatalog.Value.Convert

/-!
Criteria from values.  Whatever is returned is well formed: token lists are not empty and hold no
empty token, ranges have one or two bounds that are not null, opposite flags are not both set, the
confidence lies within 0 and 1, and the place lies on the globe with a distance that is not zero or
less.
-/

namespace PhotoCatalog

/-- The names that criteria have in the catalog's documents, with their field names. -/
def criterionNames : List (String × String) := [
  ("DescriptionSearch", "description_search"), ("Keywords", "keywords"), ("People", "people"),
  ("Objects", "objects"), ("Scenes", "scenes"), ("PictureType", "picture_type"),
  ("StyleType", "style_type"), ("OverallMood", "overall_mood"), ("PathLike", "path_like"),
  ("CameraMake", "camera_make"), ("CameraModel", "camera_model"), ("GPSLatitude", "gps_latitude"),
  ("GPSLongitude", "gps_longitude"), ("GPSAltitude", "gps_altitude"),
  ("ExposureTime", "exposure_time"), ("FNumber", "f_number"), ("ISO", "iso"),
  ("FocalLength", "focal_length"), ("Width", "width"), ("Height", "height"),
  ("DateTaken", "date_taken"), ("HasNudity", "has_nudity"), ("NoNudity", "no_nudity"),
  ("HasExplicitContent", "has_explicit_content"), ("NoExplicitContent", "no_explicit_content"),
  ("GeoLocation", "geo_location"), ("Any", "any"), ("MinConfidenceRatio", "min_confidence_ratio")]

def fieldNames : List String := criterionNames.map (·.2)

/-- The tokens that a value holds: a text is one token, other values are made of tokens; absent and
empty ones do not count. -/
def tokensOf (value : Value) : Except Fault (Option (List String)) := do
  let items ← match value with
    | .null => pure []
    | .text s => pure [.text s]
    | value => value.elements
  let tokens := (items.filter (!·.isNull)).map Value.shown |>.filter (!·.isEmpty)
  return if tokens.isEmpty then none else some tokens

/-- The bounds that a value holds: the items of a list, or the value itself. -/
def boundsOf (name : String) (value : Value) : Except Fault (Option Bounds) :=
  match value with
  | .null => .ok none
  | value =>
    let items := match value with
      | .list items => items
      | value => [value]
    if items.length < 1 ∨ 2 < items.length then
      .error (.criteria (.boundCount name items.length))
    else if items.any Value.isNull then .error (.criteria (.nullBound name))
    else match items with
      | [a] => .ok (some (.one a))
      | [a, b] => .ok (some (.two a b))
      | _ => .error (.criteria (.boundCount name items.length))

def ratioOf (value : Value) : Except Fault (Option Float) :=
  match value with
  | .null => .ok none
  | value => do
    let ratio ← value.toFloat
    if 0.0 ≤ ratio ∧ ratio ≤ 1.0 then return some ratio
    else throw (.criteria (.ratioOutOfRange ratio))

/-- A part of a place.  A number beyond the doubles stays its own fault; anything else that is no
number spoils the place. -/
def placePart (value : Value) : Except Fault Float :=
  match value.toFloat with
  | .ok x => .ok x
  | .error .outOfRange => .error .outOfRange
  | .error _ => .error (.criteria .malformedPlace)

/-- The three parts of a place.  A fourth one is still converted before it is found to be too
many. -/
def placeParts : List Value → Except Fault (Float × Float × Float)
  | [a, b, c] => do return (← placePart a, ← placePart b, ← placePart c)
  | items => do
    let _ ← (items.take 4).mapM placePart
    throw (.criteria .malformedPlace)

def placeOf (value : Value) : Except Fault (Option Place) :=
  match value with
  | .null => .ok none
  | value =>
    match value.elements with
    | .error _ => .error (.criteria .malformedPlace)
    | .ok items => do
      let (latitude, longitude, meters) ← placeParts items
      if ¬(-90.0 ≤ latitude ∧ latitude ≤ 90.0) ∨ ¬(-180.0 ≤ longitude ∧ longitude ≤ 180.0) then
        throw (.criteria (.placeOutOfRange latitude longitude))
      else if meters ≤ 0.0 then throw (.criteria .distanceNotPositive)
      else return some ⟨latitude, longitude, meters⟩

/-- The answer of a step that has been checked not to fail. -/
def checked {α : Type} (fallback : α) : Except Fault α → α
  | .ok a => a
  | .error _ => fallback

/-- Criteria from the values of their fields; a field that is not given is null. -/
def Criteria.ofFields (field : String → Value) : Except Fault Criteria := do
  let tokens (facet : ListFacet) := tokensOf (field facet.name)
  let bounds (facet : RangeFacet) := boundsOf facet.name (field facet.name)
  let flags (facet : FlagFacet) := (field facet.name).truthy
  ListFacet.all.forM fun facet => discard (tokens facet)
  let any ← tokensOf (field "any")
  RangeFacet.all.forM fun facet => discard (bounds facet)
  if flags .hasNudity && flags .noNudity then throw (.criteria .nudityConflict)
  if flags .hasExplicitContent && flags .noExplicitContent then
    throw (.criteria .explicitConflict)
  let ratio ← ratioOf (field "min_confidence_ratio")
  let place ← placeOf (field "geo_location")
  return {
    tokens := fun facet => checked none (tokens facet)
    any := any
    bounds := fun facet => checked none (bounds facet)
    flags := flags
    place := place
    minConfidence := ratio }

def fieldOfKey? (key : String) : Option String :=
  let name := (criterionNames.lookup key).getD key
  if fieldNames.contains name then some name else none

/-- The entries of a mapping under their field names; an unknown key is a fault. -/
def fieldEntries : List (String × Value) → Except Fault (List (String × Value))
  | [] => .ok []
  | (key, value) :: rest =>
    match fieldOfKey? key with
    | none => .error (.criteria (.unknownCriterion key))
    | some name => do return (name, value) :: (← fieldEntries rest)

/-- Criteria from the entries of a mapping, whose keys are field names or the names used in
documents; of two entries for one field the last one counts. -/
def Criteria.ofEntries (entries : List (String × Value)) : Except Fault Criteria := do
  let fields := (← fieldEntries entries).reverse
  Criteria.ofFields fun name => (fields.lookup name).getD .null

def Criteria.ofValue : Value → Except Fault Criteria
  | .map entries => Criteria.ofEntries entries
  | _ => .error .notAMapping

end PhotoCatalog
