import PhotoCatalog.Text.Digit

/-!
Days of the Gregorian calendar, from year 1 to year 9999, and their ISO week numbering.  The written
form has fixed width, so the order of texts is the order of days.
-/

namespace PhotoCatalog.Calendar

open PhotoCatalog.Text (padded)

structure Date where
  year : Nat
  month : Nat
  day : Nat
deriving Repr, DecidableEq, Inhabited

def lastYear : Nat := 9999

def isLeap (year : Nat) : Bool :=
  year % 4 == 0 && (year % 100 != 0 || year % 400 == 0)

def daysInMonth (year month : Nat) : Nat :=
  if month = 2 then (if isLeap year then 29 else 28)
  else if month = 4 ∨ month = 6 ∨ month = 9 ∨ month = 11 then 30
  else 31

def Date.Valid (d : Date) : Prop :=
  1 ≤ d.year ∧ d.year ≤ lastYear ∧ 1 ≤ d.month ∧ d.month ≤ 12 ∧
    1 ≤ d.day ∧ d.day ≤ daysInMonth d.year d.month

instance (d : Date) : Decidable d.Valid := by unfold Date.Valid; infer_instance

/-- The day with this year, month and number, if there is one. -/
def Date.of? (year month day : Nat) : Option Date :=
  let d : Date := ⟨year, month, day⟩
  if d.Valid then some d else none

/-- The number of days before the first of January of a year. -/
def daysBeforeYear (year : Nat) : Nat :=
  let y := year - 1
  y * 365 + y / 4 - y / 100 + y / 400

/-- The number of days of a year before the first of a month. -/
def daysBeforeMonth (year month : Nat) : Nat :=
  (List.range (month - 1)).foldl (fun days m => days + daysInMonth year (m + 1)) 0

/-- The number of a day, counted from the first of January of year 1, which is number 1. -/
def Date.ordinal (d : Date) : Nat :=
  daysBeforeYear d.year + daysBeforeMonth d.year d.month + d.day

/-- The month and day that lie `n` days after the first of `month`. -/
def dayWithin (year month n : Nat) : Nat → Date
  | 0 => ⟨year, month, n + 1⟩
  | months + 1 =>
    if n < daysInMonth year month then ⟨year, month, n + 1⟩
    else dayWithin year (month + 1) (n - daysInMonth year month) months

/-- The year that holds a day number, from an estimate that is at most two years too late. -/
def yearHolding (n guess : Nat) : Nat → Nat
  | 0 => guess
  | steps + 1 => if daysBeforeYear guess < n then guess else yearHolding n (guess - 1) steps

/-- The day with this number, if the calendar has it. -/
def Date.ofOrdinal? (n : Nat) : Option Date :=
  if n = 0 then none
  else
    let year := yearHolding n (n / 365 + 1) 40
    if lastYear < year then none
    else some (dayWithin year 1 (n - 1 - daysBeforeYear year) 11)

def Date.next? (d : Date) : Option Date :=
  if d.day < daysInMonth d.year d.month then some ⟨d.year, d.month, d.day + 1⟩
  else if d.month < 12 then some ⟨d.year, d.month + 1, 1⟩
  else if d.year < lastYear then some ⟨d.year + 1, 1, 1⟩
  else none

/-- The day of the week, Monday being 0. -/
def Date.weekday (d : Date) : Nat := (d.ordinal + 6) % 7

/-- The number of weeks of an ISO year: 53 when it begins on a Thursday, or on a Wednesday and is a
leap year. -/
def weeksInYear (year : Nat) : Nat :=
  let first := (Date.mk year 1 1).weekday
  if first = 3 ∨ (first = 2 ∧ isLeap year) then 53 else 52

/-- The number of the Monday that begins week 1 of an ISO year, the week that holds the first
Thursday.  One is added, so that the Monday before the first day of the calendar has number 0. -/
def weekOneMonday (year : Nat) : Nat :=
  let first : Date := ⟨year, 1, 1⟩
  let monday := first.ordinal + 1 - first.weekday
  if 3 < first.weekday then monday + 7 else monday

/-- The day that an ISO year, week and weekday (Monday being 1) name. -/
def Date.ofWeek? (year week weekday : Nat) : Option Date :=
  if year < 1 ∨ week < 1 ∨ weeksInYear year < week ∨ weekday < 1 ∨ 7 < weekday then none
  else Date.ofOrdinal? (weekOneMonday year + (week - 1) * 7 + weekday - 2)

/-- The written form, `YYYY-MM-DD`. -/
def Date.text (d : Date) : String :=
  padded 4 d.year ++ "-" ++ padded 2 d.month ++ "-" ++ padded 2 d.day

end PhotoCatalog.Calendar
