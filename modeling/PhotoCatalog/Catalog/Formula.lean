import PhotoCatalog.Catalog.Cell
import PhotoCatalog.Geo.Circle
import PhotoCatalog.Value.Convert

/-!
The functions that a query may use, and the distance formula that is built from them.  Null leads to
null; every other cell is read as a number, and a cell that is none ends the query.
-/

namespace PhotoCatalog.Catalog

open PhotoCatalog.Geo PhotoCatalog.Number

inductive Function where
  | radians | sin | cos | asin | sqrt
deriving Repr, DecidableEq

def Function.all : List Function := [.radians, .sin, .cos, .asin, .sqrt]

def Function.name : Function → String
  | .radians => "radians"
  | .sin => "sin"
  | .cos => "cos"
  | .asin => "asin"
  | .sqrt => "sqrt"

/-- The value of a function.  Rounding can push the argument of the arc sine past 1 and that of the
square root below 0, so both are cut off there. -/
def Function.eval {α : Type} [Scalar α] (f : Function) (x : α) : Option α :=
  match f with
  | .radians => some (Scalar.radians x)
  | .sin => Scalar.sin? x
  | .cos => Scalar.cos? x
  | .asin => Scalar.asin? (lesser 1.0 (greater (0.0 - 1.0) x))
  | .sqrt => Scalar.sqrt? (greater 0.0 x)

def Function.apply (f : Function) (cell : Cell) : Except Fault Cell :=
  match cell with
  | .null => .ok .null
  | cell =>
    match cell.toValue.toFloat with
    | .error _ => .error (.query .undefinedFunction)
    | .ok x =>
      match f.eval x with
      | none => .error (.query .undefinedFunction)
      | some y => .ok (.ofReal y)

/-- A function applied to a value that is bound to a parameter. -/
def Function.applyValue (f : Function) (value : Value) : Except Fault Cell := do
  f.apply (← Cell.ofValue value)

/-- An operation on two numbers; the results of functions are numbers or null. -/
def Cell.combine (op : Float → Float → Float) : Cell → Cell → Cell
  | .real x, .real y => .ofReal (op x y)
  | _, _ => .null

def Cell.half (cell : Cell) : Cell := Cell.combine (· / ·) cell (.real 2.0)

/-- The distance in kilometers between the place of an image and a point, as a query computes it. -/
def distance (lat lon originLat originLon : Cell) : Except Fault Cell := do
  let radians (cell : Cell) := Function.radians.apply cell
  let times := Cell.combine (· * ·)
  let difference (a b : Cell) : Except Fault Cell := do
    return Cell.combine (· - ·) (← radians a) (← radians b)
  let sinHalf (a b : Cell) : Except Fault Cell := do
    Function.sin.apply (← difference a b).half
  let sinLat ← sinHalf lat originLat
  let cosOrigin ← Function.cos.apply (← radians originLat)
  let cosLat ← Function.cos.apply (← radians lat)
  let sinLon ← sinHalf lon originLon
  let hav := Cell.combine (· + ·) (times sinLat sinLat)
    (times (times (times cosOrigin cosLat) sinLon) sinLon)
  let root ← Function.sqrt.apply hav
  let arc ← Function.asin.apply root
  return times (.real (2.0 * 6371.0)) arc

end PhotoCatalog.Catalog
