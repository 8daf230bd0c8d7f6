import PhotoCatalog.Proofs.Catalog.Holds
import PhotoCatalog.Proofs.Number.Order
import PhotoCatalog.Query.Statement

/-!
Circles on the globe and the condition that selects what lies in them, for every kind of number.
For doubles the circle is the region that a place asks for and the condition is the answer of the
catalog to it, so a statement about another kind of number is about the same formulas.
-/

namespace PhotoCatalog.Geo

open PhotoCatalog.Catalog PhotoCatalog.Number PhotoCatalog.Query

section

variable {α : Type} [Scalar α]

/-- A circle on the globe with the boxes around it. -/
structure Circle (α : Type) where
  latitude : α
  longitude : α
  maxKm : α
  latBox : α × α
  lonBoxes : List (α × α)

/-- The circle within a distance of a point. -/
def Circle.around? (latitude longitude meters : α) : Option (Circle α) := do
  let maxKm := meters / 1000.0
  let span := latitudeSpan latitude maxKm
  let delta ← if reachesPole span then some none else longitudeDelta? latitude maxKm
  return ⟨latitude, longitude, maxKm, latitudeBox span,
    delta.elim [] (longitudeBoxes longitude)⟩

/-- A number as a query holds it, null when it is not a number. -/
def number? (x : α) : Option α := if Scalar.atMost x x then some x else none

/-- A function of a query at a number or null. -/
def valueAt? (f : Function) : Option α → Option (Option α)
  | none => some none
  | some x => (f.eval x).map number?

/-- An operation on two numbers; null leads to null. -/
def combine (op : α → α → α) : Option α → Option α → Option α
  | some x, some y => number? (op x y)
  | _, _ => none

/-- The difference of two angles in degrees, in radians. -/
def difference? (a b : Option α) : Option (Option α) := do
  return combine (· - ·) (← valueAt? .radians a) (← valueAt? .radians b)

/-- The sine of half the difference of two angles in degrees. -/
def halfSine? (a b : Option α) : Option (Option α) := do
  valueAt? .sin (combine (· / ·) (← difference? a b) (some 2.0))

/-- The distance in kilometers as a query computes it. -/
def queryKm? (lat lon originLat originLon : Option α) : Option (Option α) := do
  let times := combine (· * ·)
  let sinLat ← halfSine? lat originLat
  let cosOrigin ← valueAt? .cos (← valueAt? .radians originLat)
  let cosLat ← valueAt? .cos (← valueAt? .radians lat)
  let sinLon ← halfSine? lon originLon
  let root ← valueAt? .sqrt (combine (· + ·) (times sinLat sinLat)
    (times (times (times cosOrigin cosLat) sinLon) sinLon))
  return times (some (2.0 * 6371.0)) (← valueAt? .asin root)

/-- Whether a number is at most another one; unknown when one of them is null. -/
def isAtMost (x y : Option α) : Truth := x.bind fun x => y.map (Scalar.atMost x)

/-- Whether a number lies in a box, the bounds included. -/
def isBetween (x : Option α) (box : α × α) : Truth :=
  (isAtMost (number? box.1) x).and (isAtMost x (number? box.2))

/-- Whether a place lies within the boxes of a circle. -/
def Circle.inBoxes (circle : Circle α) (lat lon : Option α) : Truth :=
  let longitudes := circle.lonBoxes.map (isBetween lon)
  let inLongitudes :=
    if longitudes.isEmpty then some true else longitudes.foldr Truth.or (some false)
  ((Truth.and (some lat.isSome) (some lon.isSome)).and (isBetween lat circle.latBox)).and
    inLongitudes

/-- Whether a place lies in a circle: within its boxes, and not too far from its center. -/
def Circle.selects? (circle : Circle α) (lat lon : Option α) : Option Truth :=
  match circle.inBoxes lat lon with
  | some true => do
    let km ← queryKm? lat lon (number? circle.latitude) (number? circle.longitude)
    return isAtMost km (number? circle.maxKm)
  | truth => some truth

end

/-- The region of a circle in the columns of the places of images. -/
def Circle.region (circle : Circle Float) : Region where
  latColumn := latitudeColumn
  lonColumn := longitudeColumn
  latitude := .float circle.latitude
  longitude := .float circle.longitude
  maxKm := circle.maxKm
  latBox := circle.latBox
  lonBoxes := circle.lonBoxes

/-- A place asks for the region of the circle around it. -/
theorem placeCondition_eq (place : Place) :
    placeCondition place =
      (defined (Circle.around? place.latitude place.longitude place.meters)).map
        fun circle => .within circle.region := by
  rw [placeCondition, Region.around, Circle.around?]
  simp only [coordinate, Value.toFloat, ok_bind]
  cases reachesPole (latitudeSpan place.latitude (place.meters / 1000.0)) with
  | true => rfl
  | false =>
      simp only [Bool.false_eq_true, ↓reduceIte]
      cases longitudeDelta? place.latitude (place.meters / 1000.0) with
      | none => rfl
      | some delta => cases delta <;> rfl

/-- A number or null as a cell. -/
def cellOf : Option Float → Cell
  | none => .null
  | some x => .real x

theorem ofReal_eq_cellOf (x : Float) : Cell.ofReal x = cellOf (number? x) := by
  change _ = cellOf (if decide (x ≤ x) = true then some x else none)
  rw [Cell.ofReal]
  by_cases hx : x ≤ x
  · rw [if_pos (decide_eq_true hx), float_le_self_iff.mp hx]
    rfl
  · have hnan : isNaN x = true := by rwa [float_le_self_iff, Bool.not_eq_false] at hx
    rw [if_pos hnan, if_neg fun h => hx (of_decide_eq_true h)]
    rfl

/-- The value of a formula of a query, or the fault of a function without a value. -/
def evaluated {β : Type} : Option β → Except Fault β
  | none => .error (.query .undefinedFunction)
  | some b => .ok b

theorem evaluated_bind {x : Except Fault Cell} {y : Option (Option Float)}
    {f : Cell → Except Fault Cell} {g : Option Float → Option (Option Float)}
    (hx : x = evaluated (y.map cellOf)) (hf : ∀ a, f (cellOf a) = evaluated ((g a).map cellOf)) :
    x >>= f = evaluated ((y >>= g).map cellOf) := by
  subst hx
  cases y with
  | none => rfl
  | some a => exact hf a

theorem apply_cellOf (f : Function) (x : Option Float) :
    f.apply (cellOf x) = evaluated ((valueAt? f x).map cellOf) := by
  cases x with
  | none => rfl
  | some x =>
      change (match f.eval x with
        | none => Except.error (Fault.query .undefinedFunction)
        | some y => .ok (.ofReal y)) = evaluated (((f.eval x).map number?).map cellOf)
      cases f.eval x with
      | none => rfl
      | some y => exact congrArg Except.ok (ofReal_eq_cellOf y)

theorem combine_cellOf (op : Float → Float → Float) (x y : Option Float) :
    Cell.combine op (cellOf x) (cellOf y) = cellOf (combine op x y) := by
  cases x with
  | none => rfl
  | some x =>
      cases y with
      | none => rfl
      | some y => exact ofReal_eq_cellOf (op x y)

theorem distance_cellOf (lat lon originLat originLon : Option Float) :
    distance (cellOf lat) (cellOf lon) (cellOf originLat) (cellOf originLon) =
      evaluated ((queryKm? lat lon originLat originLon).map cellOf) := by
  have hdifference : ∀ a b : Option Float,
      (do return Cell.combine (· - ·) (← Function.radians.apply (cellOf a))
            (← Function.radians.apply (cellOf b))) =
        evaluated ((difference? a b).map cellOf) := by
    intro a b
    refine evaluated_bind (apply_cellOf _ _) fun a => evaluated_bind (apply_cellOf _ _) fun b => ?_
    exact congrArg Except.ok (combine_cellOf _ a b)
  have hhalfSine : ∀ a b : Option Float,
      (do Function.sin.apply (← (do
        return Cell.combine (· - ·) (← Function.radians.apply (cellOf a))
          (← Function.radians.apply (cellOf b)))).half) =
        evaluated ((halfSine? a b).map cellOf) := by
    intro a b
    refine evaluated_bind (hdifference a b) fun a => ?_
    rw [Cell.half, show Cell.real 2.0 = cellOf (some 2.0) from rfl, combine_cellOf]
    exact apply_cellOf _ _
  refine evaluated_bind (hhalfSine lat originLat) fun sinLat => ?_
  refine evaluated_bind (apply_cellOf _ _) fun originPhi => ?_
  refine evaluated_bind (apply_cellOf _ _) fun cosOrigin => ?_
  refine evaluated_bind (apply_cellOf _ _) fun phi => ?_
  refine evaluated_bind (apply_cellOf _ _) fun cosLat => ?_
  refine evaluated_bind (hhalfSine lon originLon) fun sinLon => ?_
  dsimp only
  simp only [combine_cellOf]
  refine evaluated_bind (apply_cellOf _ _) fun root => ?_
  refine evaluated_bind (apply_cellOf _ _) fun arc => ?_
  exact congrArg Except.ok (combine_cellOf _ (some _) arc)

/-- Null, or a number that is one. -/
def IsProper (x : Option Float) : Prop := ∀ a, x = some a → a ≤ a

theorem isProper_number? (x : Float) : IsProper (number? x) := by
  intro a ha
  rw [number?] at ha
  split at ha
  case isTrue hx =>
    obtain rfl := Option.some.inj ha
    exact of_decide_eq_true hx
  case isFalse => cases ha

theorem isProper_combine (op : Float → Float → Float) (x y : Option Float) :
    IsProper (combine op x y) := by
  cases x with
  | none => nofun
  | some x =>
      cases y with
      | none => nofun
      | some y => exact isProper_number? (op x y)

theorem isProper_queryKm {lat lon originLat originLon km : Option Float}
    (hkm : queryKm? lat lon originLat originLon = some km) : IsProper km := by
  simp only [queryKm?, Option.bind_eq_bind, Option.bind_eq_some_iff] at hkm
  obtain ⟨_, -, _, -, _, -, _, -, _, -, _, -, _, -, arc, -, hkm⟩ := hkm
  obtain rfl := Option.some.inj hkm
  exact isProper_combine _ _ _

/-- The comparisons of the catalog are the ones of doubles. -/
theorem compare?_cellOf {x y : Option Float} (hx : IsProper x) (hy : IsProper y) :
    ((cellOf x).compare? (cellOf y)).map (· != .gt) = isAtMost x y ∧
      ((cellOf x).compare? (cellOf y)).map (· != .lt) = isAtMost y x := by
  cases x with
  | none => cases y <;> exact ⟨rfl, rfl⟩
  | some x =>
      cases y with
      | none => exact ⟨rfl, rfl⟩
      | some y =>
          obtain ⟨a, ha⟩ := isNaN_eq_false_iff.mp (float_le_self_iff.mp (hx x rfl))
          obtain ⟨b, hb⟩ := isNaN_eq_false_iff.mp (float_le_self_iff.mp (hy y rfl))
          have hxy := Amount.compare?_eq_some_iff.mpr ⟨a, b, ha, hb, rfl⟩
          have hyx := Amount.compare?_eq_some_iff.mpr ⟨b, a, hb, ha, rfl⟩
          have hle : x ≤ y ↔ a.order b ≠ .gt := by
            rw [float_le_iff, hxy]
            simp
          have hge : y ≤ x ↔ a.order b ≠ .lt := by
            rw [float_le_iff, hyx, ← a.order_swap b]
            cases a.order b <;> simp
          change (some (((Amount.float x).compare? (.float y)).getD .eq)).map (· != .gt) =
              some (decide (x ≤ y)) ∧
            (some (((Amount.float x).compare? (.float y)).getD .eq)).map (· != .lt) =
              some (decide (y ≤ x))
          rw [hxy]
          constructor
          · exact congrArg some (Bool.eq_iff_iff.mpr (by simp [hle]))
          · exact congrArg some (Bool.eq_iff_iff.mpr (by simp [hge]))

/-- The image has a place, or null, in the columns of the places of images. -/
structure IsAt (row : ImageRow) (lat lon : Option Float) : Prop where
  latitude : row.cell latitudeColumn = cellOf lat
  longitude : row.cell longitudeColumn = cellOf lon
  properLatitude : IsProper lat
  properLongitude : IsProper lon

theorem compared_cellOf (x : Option Float) : (cellOf x).compared .real = cellOf x := by
  cases x <;> rfl

theorem between_cellOf {s : Subject} {column : String} {x : Option Float}
    (haffinity : s.affinity column = .real) (hcell : s.cell column = cellOf x) (hx : IsProper x)
    (box : Float × Float) : s.inBox column box = isBetween x box := by
  rw [Subject.inBox, Subject.between, Subject.atLeast, Subject.atMost, Subject.compare?,
    Subject.compare?, hcell, haffinity, ofReal_eq_cellOf, ofReal_eq_cellOf, compared_cellOf,
    compared_cellOf, (compare?_cellOf hx (isProper_number? _)).2,
    (compare?_cellOf hx (isProper_number? _)).1]
  rfl

variable {row : ImageRow} {lat lon : Option Float}

theorem IsAt.inBoxes (hrow : IsAt row lat lon) (catalog : Catalog) (circle : Circle Float) :
    (subject catalog row).inBoxes circle.region = circle.inBoxes lat lon := by
  have hset : ∀ {column : String} {x : Option Float}, row.cell column = cellOf x →
      (subject catalog row).isSet column = some x.isSome := by
    intro column x hcell
    change some (!(row.cell column).isNull) = _
    rw [hcell]
    cases x <;> rfl
  have hlat : ∀ box, (subject catalog row).inBox latitudeColumn box = isBetween lat box :=
    between_cellOf rfl hrow.latitude hrow.properLatitude
  have hlon : ∀ box, (subject catalog row).inBox longitudeColumn box = isBetween lon box :=
    between_cellOf rfl hrow.longitude hrow.properLongitude
  rw [Subject.inBoxes, Circle.inBoxes]
  simp only [Circle.region, hset hrow.latitude, hset hrow.longitude, hlat, funext hlon]

/-- An image satisfies the region of a circle when the circle selects its place. -/
theorem IsAt.satisfies (hrow : IsAt row lat lon) (catalog : Catalog) (circle : Circle Float) :
    (subject catalog row).satisfies (.within circle.region) =
      evaluated (circle.selects? lat lon) := by
  rw [Subject.satisfies, Subject.isWithin, hrow.inBoxes catalog circle, Circle.selects?]
  rcases circle.inBoxes lat lon with _ | _ | _
  · rfl
  · rfl
  · change (do
      let km ← distance (row.cell latitudeColumn) (row.cell longitudeColumn)
        (.ofReal circle.latitude) (.ofReal circle.longitude)
      return (km.compare? (.ofReal circle.maxKm)).map (· != Ordering.gt)) = _
    rw [hrow.latitude, hrow.longitude, ofReal_eq_cellOf, ofReal_eq_cellOf, ofReal_eq_cellOf,
      distance_cellOf]
    cases hkm : queryKm? lat lon (number? circle.latitude) (number? circle.longitude) with
    | none => rfl
    | some km =>
        exact congrArg Except.ok
          (compare?_cellOf (isProper_queryKm hkm) (isProper_number? circle.maxKm)).1

/-- The answer of the catalog to a place. -/
theorem IsAt.satisfies_place (hrow : IsAt row lat lon) (catalog : Catalog) (place : Place) :
    (do (subject catalog row).satisfies (← placeCondition place)) =
      (do
        let circle ← defined (Circle.around? place.latitude place.longitude place.meters)
        evaluated (circle.selects? lat lon)) := by
  rw [placeCondition_eq]
  cases Circle.around? place.latitude place.longitude place.meters with
  | none => rfl
  | some circle => exact hrow.satisfies catalog circle

end PhotoCatalog.Geo
