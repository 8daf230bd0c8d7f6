import PhotoCatalog.Schema
import PhotoCatalog.Value.Written

/-!
The criteria of one search.  A facet that is not set does not constrain the result; the tokens of
one facet are alternatives, and different facets must all be satisfied.
-/

namespace PhotoCatalog

/-- One or two bounds of a range, in the order in which they were given. -/
inductive Bounds where
  | one (value : Value)
  | two (first second : Value)

def Bounds.toList : Bounds → List Value
  | .one value => [value]
  | .two first second => [first, second]

/-- A point on the globe and a distance from it in meters. -/
structure Place where
  latitude : Float
  longitude : Float
  meters : Float

def Place.toList (p : Place) : List Float := [p.latitude, p.longitude, p.meters]

/-- What a search asks for. -/
structure Criteria where
  tokens : ListFacet → Option (List String)
  any : Option (List String)
  bounds : RangeFacet → Option Bounds
  flags : FlagFacet → Bool
  place : Option Place
  minConfidence : Option Float

def Criteria.empty : Criteria where
  tokens := fun _ => none
  any := none
  bounds := fun _ => none
  flags := fun _ => false
  place := none
  minConfidence := none

def Criteria.isActive (c : Criteria) : Facet → Bool
  | .list facet => (c.tokens facet).isSome
  | .range facet => (c.bounds facet).isSome
  | .flag facet => c.flags facet
  | .geoLocation => c.place.isSome
  | .any => c.any.isSome

def Criteria.activeFacets (c : Criteria) : List Facet := Facet.all.filter c.isActive

def Criteria.describeFacet (c : Criteria) : Facet → String
  | .list facet => ", ".intercalate ((c.tokens facet).getD [])
  | .range facet =>
    ", ".intercalate (((c.bounds facet).map Bounds.toList).getD [] |>.map Value.shown)
  | .flag facet => (Value.bool (c.flags facet)).shown
  | .geoLocation => ", ".intercalate ((c.place.map Place.toList).getD [] |>.map Number.floatText)
  | .any => ", ".intercalate (c.any.getD [])

def Criteria.describe (c : Criteria) : String :=
  let facets := c.activeFacets.map fun facet => facet.name ++ "=" ++ c.describeFacet facet
  let ratio := c.minConfidence.toList.map fun r => "min_confidence_ratio=" ++ Number.floatText r
  let parts := facets ++ ratio
  if parts.isEmpty then "(no filters)" else "; ".intercalate parts

end PhotoCatalog
