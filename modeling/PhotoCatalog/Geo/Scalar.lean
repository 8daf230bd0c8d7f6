import PhotoCatalog.Number.Power

/-!
What the geometry of the globe computes with.  The formulas are written once, for every kind of
number that has the four operations, an order and the trigonometric functions; a function answers
with nothing outside of its domain.
-/

namespace PhotoCatalog.Geo

/-- Numbers with trigonometric functions. -/
class Scalar (α : Type) extends Add α, Sub α, Mul α, Div α, OfScientific α where
  /-- Whether the first number is less than the second one. -/
  less : α → α → Bool
  /-- Whether the first number is at most the second one. -/
  atMost : α → α → Bool
  /-- An angle in degrees as an angle in radians. -/
  radians : α → α
  /-- An angle in radians as an angle in degrees. -/
  degrees : α → α
  /-- The second power of a number. -/
  square : α → α
  /-- The quotient of two numbers, unless the second one is zero. -/
  quotient? : α → α → Option α
  sin? : α → Option α
  cos? : α → Option α
  asin? : α → Option α
  sqrt? : α → Option α

def pi : Float := 3.141592653589793

def isInfinite (x : Float) : Bool := x == 1.0 / 0.0 || x == -1.0 / 0.0

instance : Scalar Float where
  less x y := x < y
  atMost x y := x ≤ y
  radians x := x * (pi / 180.0)
  degrees x := x * (180.0 / pi)
  square x := Number.power x 2.0
  quotient? x y := if y == 0.0 then none else some (x / y)
  sin? x := if isInfinite x then none else some x.sin
  cos? x := if isInfinite x then none else some x.cos
  asin? x := if x < -1.0 ∨ 1.0 < x then none else some x.asin
  sqrt? x := if x < 0.0 then none else some x.sqrt

variable {α : Type} [Scalar α]

/-- The second number if it is greater than the first one, else the first one. -/
def greater (x y : α) : α := if Scalar.less x y then y else x

/-- The second number if it is less than the first one, else the first one. -/
def lesser (x y : α) : α := if Scalar.less y x then y else x

end PhotoCatalog.Geo
