import PhotoCatalog.Calendar.Iso
import PhotoCatalog.Criteria.Basic
import PhotoCatalog.Query.Condition
import PhotoCatalog.Text.Blank
import PhotoCatalog.Value.Order

/-!
Ranges of days and moments.  Stored moments are ISO texts, so a range of them is a range of texts.
A bound that names a day covers the whole day: as the upper bound it is widened to the next day,
which is then excluded.
-/

namespace PhotoCatalog.Query

open PhotoCatalog.Calendar PhotoCatalog.Text

/-- A bound of a date range: a whole day or a moment. -/
inductive DateBound where
  | day (d : Date)
  | moment (m : Moment)
deriving Repr, DecidableEq

/-- The text that stored moments are compared with. -/
def DateBound.text : DateBound → String
  | .day d => d.text
  | .moment m => m.textToSecond " "

/-- The moment by which bounds are ordered: a day counts from its first moment. -/
def DateBound.start : DateBound → Moment
  | .day d => d.midnight
  | .moment m => m

/-- Turn the colons of a day that begins a text, `YYYY:MM:DD`, into hyphens. -/
def hyphenate (cs : List Char) : List Char :=
  match cs with
  | y₁ :: y₂ :: y₃ :: y₄ :: ':' :: m₁ :: m₂ :: ':' :: d₁ :: d₂ :: rest =>
    if [y₁, y₂, y₃, y₄, m₁, m₂, d₁, d₂].all isDecimal then
      y₁ :: y₂ :: y₃ :: y₄ :: '-' :: m₁ :: m₂ :: '-' :: d₁ :: d₂ :: rest
    else cs
  | cs => cs

/-- Read a bound from a text: ten characters spell a day, any other number of them a moment. -/
def DateBound.read? (text : String) : Option DateBound :=
  let cs := hyphenate (trimBy isBlank text.toList)
  if cs.length = 10 then (readDate? (String.ofList cs)).map .day
  else (readMoment? (String.ofList cs)).map .moment

def DateBound.ofValue (value : Value) : Except Fault DateBound :=
  match value with
  | .date d => .ok (.day d)
  | .moment m => .ok (.moment m)
  | value =>
    match DateBound.read? value.shown with
    | some bound => .ok bound
    | none => .error (.criteria (.malformedDate value))

/-- The condition that a column lies between two bounds, which are in order. -/
def between (column : String) (low high : DateBound) : Except Fault Condition :=
  match high with
  | .moment _ => .ok (.range column (.text low.text) (some (.text high.text)) false)
  | .day d =>
    match d.next? with
    | some next => .ok (.range column (.text low.text) (some (.text next.text)) true)
    | none => .error .outOfRange

/-- The condition that a column lies in a date range, whose bounds may come in either order. -/
def dateRange (column : String) : Bounds → Except Fault Condition
  | .one value => do
    let bound ← DateBound.ofValue value
    match bound with
    | .moment _ => return .range column (.text bound.text) none false
    | .day _ => between column bound bound
  | .two first second => do
    let a ← DateBound.ofValue first
    let b ← DateBound.ofValue second
    match b.start.before? a.start with
    | none => throw .wrongKind
    | some swapped => if swapped then between column b a else between column a b

/-- The condition that a column lies in a range of numbers, whose bounds may come in either
order. -/
def numericRange (column : String) : Bounds → Except Fault Condition
  | .one value => .ok (.range column value none false)
  | .two first second => do
    let swapped ← second.less first
    return if swapped then .range column second (some first) false
      else .range column first (some second) false

end PhotoCatalog.Query
