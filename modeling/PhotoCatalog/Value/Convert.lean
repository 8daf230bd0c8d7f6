import PhotoCatalog.Fault
import PhotoCatalog.Number.Numeral

/-!
Values as numbers.  A truth value is 0 or 1, texts and bytes are read as numerals, and a double
becomes a whole number by rounding toward zero.
-/

namespace PhotoCatalog

open PhotoCatalog.Number

/-- The number that a numeral spells, or the fault of a text that spells none. -/
def spelled {α : Type} : Option α → Except Fault α
  | some a => .ok a
  | none => .error .malformedNumber

/-- The double nearest to a whole number. -/
def floatOfInt (n : Int) : Except Fault Float :=
  match ofInt? n with
  | some x => .ok x
  | none => .error .outOfRange

/-- A double rounded toward zero. -/
def intOfFloat (x : Float) : Except Fault Int :=
  match partsOf x with
  | .nan => .error .malformedNumber
  | .infinite _ => .error .outOfRange
  | .finite .. => .ok ((truncated? x).getD 0)

def Value.toFloat : Value → Except Fault Float
  | .bool b => .ok (if b then 1.0 else 0.0)
  | .int n => floatOfInt n
  | .float x => .ok x
  | .text s => spelled (float? s)
  | .bytes data => spelled (floatOfBytes? data)
  | _ => .error .wrongKind

def Value.toInt : Value → Except Fault Int
  | .bool b => .ok (if b then 1 else 0)
  | .int n => .ok n
  | .float x => intOfFloat x
  | .text s => spelled (int? s)
  | .bytes data => spelled (intOfBytes? data)
  | _ => .error .wrongKind

/-- The items that a value is made of: the items of a list, the keys of a mapping, the characters of
a text, the bytes of a sequence of bytes. -/
def Value.elements : Value → Except Fault (List Value)
  | .list items => .ok items
  | .map entries => .ok (entries.map fun e => .text e.1)
  | .text s => .ok (s.toList.map fun c => .text c.toString)
  | .bytes data => .ok (data.map fun b => .int b.toNat)
  | _ => .error .wrongKind

end PhotoCatalog
