import PhotoCatalog.Address.Host
import PhotoCatalog.Fault
import PhotoCatalog.Number.Numeral
import PhotoCatalog.Text.Blank

/-!
The texts that options of a command take: numbers and fractions, ranges of them, and places.
-/

namespace PhotoCatalog.Command

open PhotoCatalog.Number PhotoCatalog.Text

def readFloat (text : String) : Except Fault Float :=
  match float? text with
  | some x => .ok x
  | none => .error .malformedNumber

/-- What stands before the first slash of a text and behind it, if there is one. -/
def splitFraction (text : String) : Option (String × String) :=
  let cs := text.toList
  let behind := cs.dropWhile (· ≠ '/')
  if behind.isEmpty then none
  else some (String.ofList (cs.takeWhile (· ≠ '/')), String.ofList (behind.drop 1))

/-- A number: a fraction, a whole number, or, where there is a point, a double. -/
def readNumber (text : String) : Except Fault Value := do
  let text := trim text
  match splitFraction text with
  | some (above, below) =>
    let num ← readFloat above
    let den ← readFloat below
    if den == 0.0 then throw .divisionByZero else return .float (num / den)
  | none =>
    let x ← readFloat text
    match text.toList.contains '.', isWhole x, truncated? x with
    | false, true, some n => return .int n
    | _, _, _ => return .float x

/-- The parts of a text between commas, trimmed and without empty ones. -/
def rangeParts (text : String) : List String :=
  ((Address.pieces ',' text.toList).map fun cs => trim (String.ofList cs)).filter (!·.isEmpty)

/-- The bounds that a text gives for an option: numbers, or any texts. -/
def readRange (option : String) (numeric : Bool) (text : String) : Except Fault (List Value) :=
  let parts := rangeParts text
  if numeric then
    match parts.mapM readNumber with
    | .ok numbers => .ok numbers
    | .error _ => .error (.criteria (.malformedNumbers option text))
  else .ok (parts.map .text)

def readPlace (text : String) : Except Fault (List Float) :=
  let fault := Fault.criteria (.malformedPlaceText text)
  match (Address.pieces ',' text.toList).mapM fun cs => float? (String.ofList cs) with
  | some [latitude, longitude, meters] => .ok [latitude, longitude, meters]
  | _ => .error fault

end PhotoCatalog.Command
