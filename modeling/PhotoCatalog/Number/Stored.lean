import PhotoCatalog.Number.Numeral
import PhotoCatalog.Number.Wide

/-!
The decimal texts of reals in the catalog.  It writes them with fifteen significant digits and reads
any number of digits, and computes in both directions with significands of 64 bits, so that a value
near the middle between two results may go either way.
-/

namespace PhotoCatalog.Number

open PhotoCatalog.Text (digitChar)

/-- A number with a power of ten that was split off. -/
structure Scaled where
  value : Ratio
  power : Int

/-- Multiply a scale by `step`, which is ten to the `power`, while `x` reaches the product. -/
def raiseScale (x step : Ratio) (power : Int) : Nat → Scaled → Scaled
  | 0, scale => scale
  | fuel + 1, scale =>
    let next := step.times scale.value
    if next.atMost x then raiseScale x step power fuel ⟨next, scale.power + power⟩ else scale

/-- Multiply a number by `step`, which is ten to the `power`, while it is less than `bound`. -/
def raiseValue (bound step : Ratio) (power : Int) : Nat → Scaled → Scaled
  | 0, x => x
  | fuel + 1, x =>
    if bound.atMost x.value then x
    else raiseValue bound step power fuel ⟨x.value.times step, x.power - power⟩

def ten : Ratio := .ofNat 10

def one : Ratio := .ofNat 1

/-- A positive number brought between one and ten by powers of ten, the great ones first. -/
def normalized (x : Ratio) : Scaled :=
  let scale := raiseScale x (.ofFloat 1e100) 100 4 ⟨one, 0⟩
  let scale := raiseScale x (.ofFloat 1e10) 10 10 scale
  let scale := raiseScale x ten 1 10 scale
  let small := raiseValue (.ofFloat 1e-8) (.ofFloat 1e8) 8 50 ⟨x.over scale.value, scale.power⟩
  raiseValue one ten 1 10 small

/-- Half a unit of the fifteenth digit of a number between one and ten. -/
def halfUnit : Ratio := .ofFloat (5e-5 * 1e-10)

/-- A number between one and ten raised by half a unit of its fifteenth digit. -/
def roundedUp (x : Scaled) : Scaled :=
  let value := x.value.plus halfUnit
  if ten.atMost value then ⟨value.times (.ofFloat 0.1), x.power + 1⟩ else ⟨value, x.power⟩

/-- The first digits of a number between one and ten, taken off one by one. -/
def leadingDigits (value : Ratio) : Nat → List Char
  | 0 => []
  | count + 1 =>
    let digit := value.num / value.den
    digitChar digit :: leadingDigits ((value.minus (.ofNat digit)).times ten) count

/-- A positive number with fifteen significant digits. -/
def fifteenDigits (x : Ratio) : Digits :=
  let scaled := roundedUp (normalized x)
  ⟨dropZeros (leadingDigits scaled.value 15), scaled.power + 1⟩

/-- The text of reals in the catalog: always with a point, and with an exponent below 0.0001 and
from sixteen digits on. -/
def storedStyle : Style := ⟨-4, 14, true, "NaN", "Inf"⟩

/-- A double as the catalog writes it. -/
def storedText (x : Float) : String :=
  match partsOf x with
  | .nan => storedStyle.nan
  | .infinite negative => (if negative then "-" else "") ++ storedStyle.infinite
  | .finite negative significand exponent =>
    let text :=
      if significand = 0 then "0.0"
      else (fifteenDigits (Ratio.ofBinary significand exponent)).write storedStyle
    if negative ∧ significand ≠ 0 then "-" ++ text else text

/-- Ten to a power, by squaring; `square` is the factor of the lowest binary digit of the power. -/
def powerFrom (square product : Ratio) (power : Nat) : Nat → Ratio
  | 0 => product
  | fuel + 1 =>
    let product := if power % 2 = 1 then product.times square else product
    if power / 2 = 0 then product
    else powerFrom (square.times square) product (power / 2) fuel

/-- Ten to a power below 512. -/
def tenToThe (power : Nat) : Ratio := powerFrom ten one power 9

/-- The significand that digits spell takes no further digit from here on. -/
def fullSignificand : Nat := 922337203685477579

/-- The significand of a whole part, and how many digits of it did not count. -/
def wholeSignificand (significand : Nat) : List Nat → Nat × Nat
  | [] => (significand, 0)
  | d :: rest =>
    let significand := significand * 10 + d
    if fullSignificand ≤ significand then (significand, rest.length)
    else wholeSignificand significand rest

/-- The significand together with the digits behind the point, and how many of these counted. -/
def fractionSignificand (significand counted : Nat) : List Nat → Nat × Nat
  | [] => (significand, counted)
  | d :: rest =>
    if significand < fullSignificand then
      fractionSignificand (significand * 10 + d) (counted + 1) rest
    else fractionSignificand significand counted rest

/-- The exponent that digits spell; a sixth digit makes it ten thousand. -/
def exponentOf (digits : List Nat) : Nat :=
  digits.foldl (fun e d => if e < 10000 then e * 10 + d else 10000) 0

/-- Move tens from a positive exponent into the significand, while it stays within 64 bits. -/
def absorbTens (significand : Nat) : Nat → Nat × Nat
  | 0 => (significand, 0)
  | power + 1 =>
    if fullSignificand < significand then (significand, power + 1)
    else absorbTens (significand * 10) power

/-- Move tens from the significand against a negative exponent, while it ends in zeros. -/
def cancelTens (significand : Nat) : Nat → Nat × Nat
  | 0 => (significand, 0)
  | power + 1 =>
    if significand % 10 ≠ 0 then (significand, power + 1)
    else cancelTens (significand / 10) power

/-- A whole number times ten to a power. -/
def scaledUp (significand power : Nat) : Float :=
  let n := Ratio.ofNat significand
  if power = 0 then n.toFloat
  else if power ≤ 307 then (n.times (tenToThe power)).toFloat
  else if power < 342 then (n.times (tenToThe (power - 308))).toFloat * 1e308
  else infinity

/-- A whole number over ten to a power. -/
def scaledDown (significand power : Nat) : Float :=
  let n := Ratio.ofNat significand
  if power = 0 then n.toFloat
  else if power ≤ 307 then (n.over (tenToThe power)).toFloat
  else if power < 342 then (n.over (tenToThe (power - 308))).toFloat / 1e308
  else 0.0

/-- The real that the catalog reads from the digits before and behind a point and an exponent. -/
def storedReal (whole fraction : List Nat) (exponent : Int) : Float :=
  let (significand, dropped) := wholeSignificand 0 whole
  let (significand, counted) := fractionSignificand significand 0 fraction
  let power := exponent + dropped - counted
  if significand = 0 then 0.0
  else if 0 ≤ power then
    let (significand, power) := absorbTens significand power.toNat
    scaledUp significand power
  else
    let (significand, power) := cancelTens significand (-power).toNat
    scaledDown significand power

end PhotoCatalog.Number
