import PhotoCatalog.Number.Binary

/-!
The exact order of whole numbers and doubles.  No rounding takes place: a number of either kind is
compared as the rational number that it is, and the infinities lie beyond all of these.
-/

namespace PhotoCatalog.Number

/-- A number of either kind. -/
inductive Amount where
  | int (n : Int)
  | float (x : Float)
deriving Repr

/-- A rational number or one of the two infinities. -/
inductive Extended where
  | least
  | number (q : Rat)
  | greatest
deriving Repr, DecidableEq

def Extended.order : Extended → Extended → Ordering
  | .number q, .number r => compareOfLessAndEq q r
  | .least, .least => .eq
  | .greatest, .greatest => .eq
  | .least, _ => .lt
  | _, .greatest => .lt
  | _, .least => .gt
  | .greatest, _ => .gt

def rationalOf (negative : Bool) (significand : Nat) (exponent : Int) : Rat :=
  let r := Ratio.ofBinary significand exponent
  let size := mkRat r.num r.den
  if negative then -size else size

/-- What a number amounts to exactly; nothing for a double that is not a number. -/
def Amount.extended? : Amount → Option Extended
  | .int n => some (.number n)
  | .float x =>
    match partsOf x with
    | .nan => none
    | .infinite negative => some (if negative then .least else .greatest)
    | .finite negative significand exponent =>
      some (.number (rationalOf negative significand exponent))

/-- The exact order of two numbers; none when one of them is not a number. -/
def Amount.compare? (m n : Amount) : Option Ordering := do
  return (← m.extended?).order (← n.extended?)

end PhotoCatalog.Number
