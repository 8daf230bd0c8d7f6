import PhotoCatalog.Number.Binary
import PhotoCatalog.Text.Digit

/-!
Decimal texts of doubles: the fewest digits that read back, and a fixed number of places.  Both
compute with whole numbers only.
-/

namespace PhotoCatalog.Number

open PhotoCatalog.Text (digitsOf padded)

/-- Decimal digits with their place: `0.d₁d₂d₃… * 10 ^ point`. -/
structure Digits where
  digits : List Char
  point : Int
deriving Repr, DecidableEq

/-- The quotient of two whole numbers rounded to the nearest whole number, a tie going to the even
one. -/
def roundDiv (num den : Nat) : Nat :=
  let quotient := num / den
  let twice := 2 * (num % den)
  if twice < den then quotient
  else if den < twice then quotient + 1
  else if quotient % 2 = 0 then quotient else quotient + 1

/-- The ratio times a power of ten, as a numerator and a denominator. -/
def Ratio.scale (r : Ratio) (power : Int) : Ratio :=
  if 0 ≤ power then ⟨r.num * 10 ^ power.toNat, r.den⟩ else ⟨r.num, r.den * 10 ^ (-power).toNat⟩

/-- Search downwards from `guess` for the exponent `e` with `10 ^ (e - 1) ≤ r`. -/
def pointBelow (r : Ratio) (guess : Int) : Nat → Int
  | 0 => guess
  | steps + 1 =>
    let s := r.scale (1 - guess)
    if s.den ≤ s.num then guess else pointBelow r (guess - 1) steps

/-- The exponent `e` with `10 ^ (e - 1) ≤ r < 10 ^ e`, for a positive ratio.  Counting binary digits
gives an upper bound that is at most a few steps too high. -/
def pointOf (r : Ratio) : Int :=
  let bits : Int := (Nat.log2 r.num : Int) + 1 - (Nat.log2 r.den : Int)
  let guess : Int := if 0 ≤ bits then bits * 30103 / 100000 + 1 else -((-bits) * 30102 / 100000) + 1
  pointBelow r guess 8

/-- The reals that round to a double, doubled and times `den` so that all ends are whole; the ends
belong to the interval when the significand is even. -/
structure RoundingInterval where
  low : Nat
  high : Nat
  den : Nat
  closed : Bool

/-- The rounding interval of `significand * 2 ^ exponent`.  Below a power of two the neighbours lie
twice as close, except at the least exponent. -/
def RoundingInterval.of (significand : Nat) (exponent : Int) : RoundingInterval :=
  let low := if significand = 2 ^ 52 ∧ -1074 < exponent then 4 * significand - 1
    else 4 * significand - 2
  let high := 4 * significand + 2
  let unit := Ratio.ofBinary 1 (exponent - 2)
  ⟨low * unit.num, high * unit.num, unit.den, significand % 2 = 0⟩

/-- Whether `n / 10 ^ places` lies in the interval. -/
def RoundingInterval.holds (interval : RoundingInterval) (n : Nat) (places : Int) : Bool :=
  let value := (⟨n * interval.den, 1⟩ : Ratio).scale (-places)
  let low := interval.low * value.den
  let high := interval.high * value.den
  if interval.closed then low ≤ value.num && value.num ≤ high
  else low < value.num && value.num < high

/-- On the grid with `places` decimal places, the neighbour of `r` that lies in the interval; of two
such neighbours the nearer one, of two as near the even one. -/
def gridPoint? (r : Ratio) (interval : RoundingInterval) (places : Int) : Option Nat :=
  let s := r.scale places
  let below := s.num / s.den
  let nearest := roundDiv s.num s.den
  let other := if nearest = below then below + 1 else below
  if interval.holds nearest places then some nearest
  else if interval.holds other places then some other
  else none

/-- The first grid, from `count` significant digits on, that has a point in the interval. -/
def shortestFrom (r : Ratio) (interval : RoundingInterval) (point : Int) (count : Nat) :
    Nat → Nat × Int
  | 0 => (roundDiv (r.scale (17 - point)).num (r.scale (17 - point)).den, 17 - point)
  | fuel + 1 =>
    let places := (count : Int) - point
    match gridPoint? r interval places with
    | some n => (n, places)
    | none => shortestFrom r interval point (count + 1) fuel

/-- Digits without the zeros at their end. -/
def dropZeros (digits : List Char) : List Char :=
  (digits.reverse.dropWhile (· == '0')).reverse

/-- The fewest significant digits that read back as the positive double
`significand * 2 ^ exponent`, and among those the nearest. -/
def shortestDigits (significand : Nat) (exponent : Int) : Digits :=
  let r := Ratio.ofBinary significand exponent
  let (n, places) := shortestFrom r (.of significand exponent) (pointOf r) 1 17
  let digits := digitsOf n
  ⟨dropZeros digits, digits.length - places⟩

/-- How a number is written once its digits are known. -/
structure Style where
  /-- The least and the greatest decimal exponent that is written without an exponent. -/
  leastPlain : Int
  greatestPlain : Int
  /-- Whether a whole significand before an exponent gets the digit zero behind a point. -/
  pointInPower : Bool
  nan : String
  infinite : String

/-- The usual text of a double: without an exponent from 0.0001 up to sixteen digits, always with a
point or an exponent. -/
def plainStyle : Style := ⟨-4, 15, false, "nan", "inf"⟩

/-- Exponent digits with their sign, two digits at least. -/
def exponentText (exponent : Int) : String :=
  (if exponent < 0 then "-" else "+") ++ padded 2 exponent.natAbs

/-- Digits in plain notation, with at least one digit on both sides of the point. -/
def Digits.positional (d : Digits) : String :=
  if d.point ≤ 0 then
    "0." ++ String.ofList (List.replicate (-d.point).toNat '0' ++ d.digits)
  else
    let whole := d.point.toNat
    let front := d.digits.take whole
    let front := front ++ List.replicate (whole - front.length) '0'
    let back := d.digits.drop whole
    String.ofList front ++ "." ++ (if back.isEmpty then "0" else String.ofList back)

/-- Digits with one digit before the point and an exponent. -/
def Digits.scientific (style : Style) (d : Digits) : String :=
  let front := String.ofList (d.digits.take 1)
  let back := d.digits.drop 1
  let fraction :=
    if back.isEmpty then (if style.pointInPower then ".0" else "")
    else "." ++ String.ofList back
  front ++ fraction ++ "e" ++ exponentText (d.point - 1)

def Digits.write (style : Style) (d : Digits) : String :=
  let exponent := d.point - 1
  if d.digits.isEmpty then "0.0"
  else if style.leastPlain ≤ exponent ∧ exponent ≤ style.greatestPlain then d.positional
  else d.scientific style

/-- The text of a double with the fewest digits that read back. -/
def shortest (style : Style) (x : Float) : String :=
  match partsOf x with
  | .nan => style.nan
  | .infinite negative => (if negative then "-" else "") ++ style.infinite
  | .finite negative significand exponent =>
    let text := if significand = 0 then "0.0" else (shortestDigits significand exponent).write style
    if negative then "-" ++ text else text

def floatText (x : Float) : String := shortest plainStyle x

/-- The size of a double times a power of ten, rounded to a whole number. -/
def scaledSize (significand : Nat) (exponent : Int) (places : Nat) : Nat :=
  let s := (Ratio.ofBinary significand exponent).scale places
  roundDiv s.num s.den

/-- A whole number of units of the last of `places` places, as a text with a point. -/
def placesText (n places : Nat) : String :=
  padded 1 (n / 10 ^ places) ++ "." ++ padded places (n % 10 ^ places)

/-- A double with a fixed number of decimal places, a tie going to the even neighbour.  A value that
rounds to zero is written without a sign. -/
def fixed (places : Nat) (x : Float) : String :=
  match partsOf x with
  | .nan => "nan"
  | .infinite negative => if negative then "-inf" else "inf"
  | .finite negative significand exponent =>
    let n := scaledSize significand exponent places
    let text := placesText n places
    if negative ∧ n ≠ 0 then "-" ++ text else text

/-- The double nearest to the value rounded to a number of decimal places, a tie of the exact value
going to the even neighbour. -/
def roundPlaces (places : Nat) (x : Float) : Float :=
  match partsOf x with
  | .finite negative significand exponent =>
    let n := scaledSize significand exponent places
    let size := Float.ofScientific n true places
    if negative then -size else size
  | _ => x

end PhotoCatalog.Number
