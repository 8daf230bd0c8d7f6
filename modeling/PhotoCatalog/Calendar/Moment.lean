import PhotoCatalog.Calendar.Date

/-!
Moments: a day, a time of day to the microsecond, and perhaps an offset from universal time.
Moments with an offset and moments without one have no order between them.
-/

namespace PhotoCatalog.Calendar

open PhotoCatalog.Text (padded)

/-- A day with a time of day.  `offset` counts microseconds ahead of universal time. -/
structure Moment where
  date : Date
  hour : Nat
  minute : Nat
  second : Nat
  micro : Nat
  offset : Option Int
deriving Repr, DecidableEq, Inhabited

def Date.midnight (d : Date) : Moment := ⟨d, 0, 0, 0, 0, none⟩

def microsPerDay : Nat := 86400000000

def Moment.microOfDay (m : Moment) : Nat :=
  ((m.hour * 60 + m.minute) * 60 + m.second) * 1000000 + m.micro

/-- The moment with these parts, if day and time of day exist. -/
def Moment.of? (date : Option Date) (hour minute second micro : Nat) (offset : Option Int) :
    Option Moment :=
  match date with
  | none => none
  | some date =>
    if hour < 24 ∧ minute < 60 ∧ second < 60 ∧ micro < 1000000 then
      some ⟨date, hour, minute, second, micro, offset⟩
    else none

/-- Microseconds on the time line, in universal time where the moment has an offset. -/
def Moment.instant (m : Moment) : Int :=
  (m.date.ordinal * microsPerDay + m.microOfDay : Nat) - m.offset.getD 0

/-- Whether the first moment comes before the second one; none when only one of them has an
offset. -/
def Moment.before? (m n : Moment) : Option Bool :=
  if m.offset.isSome = n.offset.isSome then some (m.instant < n.instant) else none

/-- An offset as `+HH:MM`, with seconds and microseconds where they are not zero. -/
def offsetText (offset : Int) : String :=
  let size := offset.natAbs
  let micro := size % 1000000
  let second := size / 1000000 % 60
  let minute := size / 60000000 % 60
  let hour := size / 3600000000
  (if offset < 0 then "-" else "+") ++ padded 2 hour ++ ":" ++ padded 2 minute
    ++ (if second ≠ 0 ∨ micro ≠ 0 then ":" ++ padded 2 second else "")
    ++ (if micro ≠ 0 then "." ++ padded 6 micro else "")

/-- The time of day to the second, `HH:MM:SS`. -/
def Moment.clockText (m : Moment) : String :=
  padded 2 m.hour ++ ":" ++ padded 2 m.minute ++ ":" ++ padded 2 m.second

/-- The written form to the second: day, a separator, time of day, and the offset if there is
one. -/
def Moment.textToSecond (separator : String) (m : Moment) : String :=
  m.date.text ++ separator ++ m.clockText ++ (m.offset.map offsetText).getD ""

/-- The full written form, with microseconds where they are not zero. -/
def Moment.text (separator : String) (m : Moment) : String :=
  m.date.text ++ separator ++ m.clockText
    ++ (if m.micro ≠ 0 then "." ++ padded 6 m.micro else "")
    ++ (m.offset.map offsetText).getD ""

end PhotoCatalog.Calendar
