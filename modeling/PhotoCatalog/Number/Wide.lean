import PhotoCatalog.Number.Binary
import PhotoCatalog.Number.Decimal

/-!
Arithmetic with significands of 64 bits.  Every operation is computed exactly and then rounded to
the nearest number of this precision, of two as near to the one with the even significand.  Numbers
here are not negative; those of 53 bits are the doubles.
-/

namespace PhotoCatalog.Number

/-- The exponent `e` with `2 ^ e ≤ r < 2 ^ (e + 1)`, for a positive ratio. -/
def binaryPoint (r : Ratio) : Int :=
  let guess : Int := (Nat.log2 r.num : Int) - Nat.log2 r.den
  let s := Ratio.ofBinary 1 guess
  if s.num * r.den ≤ r.num * s.den then guess else guess - 1

/-- The number `significand * 2 ^ exponent` nearest to a ratio, with at most `bits` bits and no
exponent below `least`. -/
def nearestBinary (bits : Nat) (least : Int) (r : Ratio) : Nat × Int :=
  let exponent := max least (binaryPoint r + 1 - bits)
  let unit := Ratio.ofBinary 1 exponent
  (roundDiv (r.num * unit.den) (r.den * unit.num), exponent)

/-- A ratio rounded to 64 bits. -/
def Ratio.wide (r : Ratio) : Ratio :=
  let (significand, exponent) := nearestBinary 64 (-16445) r
  Ratio.ofBinary significand exponent

/-- A ratio rounded to a double; beyond the finite doubles it is infinite. -/
def Ratio.toFloat (r : Ratio) : Float :=
  let (significand, exponent) := nearestBinary 53 (-1074) r
  let bits := (exponent + 1074).toNat * 2 ^ 52 + significand
  if 2047 * 2 ^ 52 ≤ bits then infinity else Float.ofBits (UInt64.ofNat bits)

def Ratio.ofNat (n : Nat) : Ratio := ⟨n, 1⟩

def Ratio.ofFloat (x : Float) : Ratio :=
  match partsOf x with
  | .finite _ significand exponent => .ofBinary significand exponent
  | _ => ⟨0, 1⟩

/-- Whether the first ratio is at most the second one. -/
def Ratio.atMost (r s : Ratio) : Bool := r.num * s.den ≤ s.num * r.den

/-- The sum of two numbers of 64 bits. -/
def Ratio.plus (r s : Ratio) : Ratio := Ratio.wide ⟨r.num * s.den + s.num * r.den, r.den * s.den⟩

/-- The difference of two numbers of 64 bits, the second of which is not the greater one. -/
def Ratio.minus (r s : Ratio) : Ratio := Ratio.wide ⟨r.num * s.den - s.num * r.den, r.den * s.den⟩

/-- The product of two numbers of 64 bits. -/
def Ratio.times (r s : Ratio) : Ratio := Ratio.wide ⟨r.num * s.num, r.den * s.den⟩

/-- The quotient of two numbers of 64 bits. -/
def Ratio.over (r s : Ratio) : Ratio := Ratio.wide ⟨r.num * s.den, r.den * s.num⟩

end PhotoCatalog.Number
