/-!
Doubles taken apart.  A finite double is a sign, a whole significand and a power of two, and every
exact computation on doubles in this library goes through this form.
-/

namespace PhotoCatalog.Number

-- Powers of whole numbers are the core library's, also where an algebra library is in scope.
attribute [instance (1100), default_instance (10001)] instPowNat

/-- What a double stands for. -/
inductive Parts where
  | nan
  | infinite (negative : Bool)
  /-- `significand * 2 ^ exponent`, negated when `negative`. -/
  | finite (negative : Bool) (significand : Nat) (exponent : Int)
deriving Repr, DecidableEq

/-- The parts of a double: eleven bits of exponent biased by 1023, 52 bits of fraction, a hidden
leading bit except in the subnormal range. -/
def partsOf (x : Float) : Parts :=
  let bits := x.toBits.toNat
  let negative := 2 ^ 63 ≤ bits
  let biased : Nat := bits / 2 ^ 52 % 2 ^ 11
  let fraction : Nat := bits % 2 ^ 52
  if biased = 2047 then
    if fraction = 0 then .infinite negative else .nan
  else if biased = 0 then .finite negative fraction (-1074)
  else .finite negative (2 ^ 52 + fraction) ((biased : Int) - 1075)

/-- A nonnegative rational number, the exact size of a finite double. -/
structure Ratio where
  num : Nat
  den : Nat
deriving Repr, DecidableEq

/-- `significand * 2 ^ exponent` as a ratio of whole numbers. -/
def Ratio.ofBinary (significand : Nat) (exponent : Int) : Ratio :=
  if 0 ≤ exponent then ⟨significand * 2 ^ exponent.toNat, 1⟩
  else ⟨significand, 2 ^ (-exponent).toNat⟩

/-- Whether the double is neither infinite nor undefined. -/
def isFinite (x : Float) : Bool :=
  match partsOf x with
  | .finite .. => true
  | _ => false

/-- Whether the double is not a number. -/
def isNaN (x : Float) : Bool := partsOf x == .nan

def isNegative (x : Float) : Bool := 2 ^ 63 ≤ x.toBits.toNat

def infinity : Float := Float.ofBits 0x7FF0000000000000

def undefined : Float := Float.ofBits 0x7FF8000000000000

/-- The whole part of a finite double, rounded toward zero. -/
def truncated? (x : Float) : Option Int :=
  match partsOf x with
  | .finite negative significand exponent =>
    let r := Ratio.ofBinary significand exponent
    let size : Int := r.num / r.den
    some (if negative then -size else size)
  | _ => none

def isWhole (x : Float) : Bool :=
  match partsOf x with
  | .finite _ significand exponent =>
    let r := Ratio.ofBinary significand exponent
    r.num % r.den == 0
  | _ => false

/-- The double nearest to a whole number; none when its size lies beyond the finite doubles. -/
def ofInt? (n : Int) : Option Float :=
  let x := Float.ofScientific n.natAbs false 0
  if isFinite x then some (if n < 0 then -x else x) else none

end PhotoCatalog.Number
