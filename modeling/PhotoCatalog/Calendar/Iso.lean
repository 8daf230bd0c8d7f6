import PhotoCatalog.Calendar.Moment

/-!
Reading ISO 8601 texts: days in calendar and week form, and moments with a time of day and an
offset.  Both the extended forms with separators and the basic forms without them are read, and any
single character may stand between day and time.
-/

namespace PhotoCatalog.Calendar

open PhotoCatalog.Text

/-- Split off a number of exactly `width` ASCII digits. -/
def takeNumber (width : Nat) (cs : List Char) : Option (Nat × List Char) :=
  let front := cs.take width
  if front.length = width then
    (front.mapM asciiDigit?).map fun ds => (ofDigits ds, cs.drop width)
  else none

def takeChar (c : Char) : List Char → Option (List Char)
  | [] => none
  | d :: rest => if d = c then some rest else none

/-- Split off the separator of an extended form; a basic form has none. -/
def takeSeparator (extended : Bool) (cs : List Char) : Option (List Char) :=
  if extended then takeChar '-' cs else some cs

/-- The day that a list begins with: `YYYY-MM-DD`, `YYYYMMDD`, `YYYY-Www`, `YYYYWww`,
`YYYY-Www-D` or `YYYYWwwD`.  What follows the day is not looked at. -/
def readDay? (cs : List Char) : Option Date := do
  let (year, rest) ← takeNumber 4 cs
  let extended := rest.head? == some '-'
  let rest := if extended then rest.drop 1 else rest
  match rest with
  | 'W' :: rest =>
    let (week, rest) ← takeNumber 2 rest
    if rest.isEmpty then Date.ofWeek? year week 1
    else
      let rest ← takeSeparator extended rest
      let (weekday, _) ← takeNumber 1 rest
      Date.ofWeek? year week weekday
  | rest =>
    let (month, rest) ← takeNumber 2 rest
    let rest ← takeSeparator extended rest
    let (day, _) ← takeNumber 2 rest
    Date.of? year month day

/-- Whether a text ends here; what stands behind a NUL character is not looked at. -/
def endsHere : List Char → Bool
  | [] => true
  | c :: _ => c.toNat == 0

/-- A time of day as it is read, before its parts are checked. -/
structure Clock where
  hour : Nat
  minute : Nat
  second : Nat
  micro : Nat
  /-- Whether something was left over behind the time. -/
  leftover : Bool

/-- The fraction of a second: at most six digits count, further digits are dropped. -/
def readFraction (hour minute second : Nat) (cs : List Char) : Option Clock :=
  let width := min 6 cs.length
  (takeNumber width cs).map fun (n, rest) =>
    ⟨hour, minute, second, n * Nat.pow 10 (6 - width), !endsHere (rest.dropWhile isAsciiDigit)⟩

/-- The parts of a time of day that have been read: hour, minute and second, of which the missing
ones are zero. -/
def partsRead (numbers : List Nat) : Nat × Nat × Nat :=
  (numbers.getD 0 0, numbers.getD 1 0, numbers.getD 2 0)

/-- Read hours, minutes and seconds, of which the last ones may be missing, then perhaps a fraction.
`colons` says whether the parts are separated, which the character behind the hours decides. -/
def readClockFrom (numbers : List Nat) (colons : Bool) (cs : List Char) : Nat → Option Clock
  | 0 => let (h, m, s) := partsRead numbers; readFraction h m s cs
  | missing + 1 => do
    let (n, rest) ← takeNumber 2 cs
    let numbers := numbers ++ [n]
    let (h, m, s) := partsRead numbers
    match rest with
    | [] => some ⟨h, m, s, 0, false⟩
    | [c] => if c.toNat < 128 then some ⟨h, m, s, 0, !endsHere rest⟩ else none
    | c :: more =>
      let colons := if numbers.length = 1 then c == ':' else colons
      if colons && c == ':' then readClockFrom numbers colons more missing
      else if c = '.' ∨ c = ',' then readFraction h m s more
      else if colons then none
      else readClockFrom numbers colons rest missing

def readClock (cs : List Char) : Option Clock := readClockFrom [] false cs 3

def beginsOffset (c : Char) : Bool := c == '+' || c == '-' || c == 'Z'

/-- Read an offset from universal time, in microseconds: `Z`, or a sign and a time below a day. -/
def readOffset? : List Char → Option Int
  | 'Z' :: rest => if endsHere rest then some 0 else none
  | sign :: rest => do
    let clock ← readClock rest
    if clock.leftover then none
    else
      let seconds := clock.hour * 3600 + clock.minute * 60 + clock.second
      let size : Nat := if seconds = 0 then 0 else seconds * 1000000 + clock.micro
      if microsPerDay ≤ size then none
      else some (if sign = '-' then -(size : Int) else size)
  | [] => none

/-- Read the time of day and the offset behind a day. -/
def readTime? (date : Date) (cs : List Char) : Option Moment := do
  let front := cs.takeWhile (!beginsOffset ·)
  let back := cs.dropWhile (!beginsOffset ·)
  let clock ← readClock front
  if back.isEmpty then
    if clock.leftover then none
    else Moment.of? date clock.hour clock.minute clock.second clock.micro none
  else
    let offset ← readOffset? back
    Moment.of? date clock.hour clock.minute clock.second clock.micro offset

/-- Where the day ends in a text that begins with one, told by the fifth and sixth character.  A
week without a weekday may be followed by a time behind a hyphen, or in basic form by digits; an
even number of digits behind the week is then a time alone. -/
def dayLength? (cs : List Char) : Option Nat :=
  if cs.length = 7 then some 7
  else if cs[4]? = some '-' then
    if cs[5]? = some 'W' then
      if cs.length < 8 then none
      else if 8 < cs.length ∧ cs[8]? = some '-' then
        if cs.length = 9 then none
        else if (cs[10]?.map isAsciiDigit).getD false then some 8
        else some 10
      else some 8
    else some 10
  else if cs[4]? = some 'W' then
    let digits := 7 + ((cs.drop 7).takeWhile isAsciiDigit).length
    if digits < 9 then some digits
    else if digits % 2 = 0 then some 7
    else some 8
  else some 8

/-- The day that an ASCII text of ten characters spells. -/
def readDate? (text : String) : Option Date :=
  if text.toList.all (·.toNat < 128) then readDay? text.toList else none

/-- The moment that a text spells.  A day alone stands for its first moment. -/
def readMoment? (text : String) : Option Moment := do
  let cs := text.toList
  if cs.length < 7 then none
  else
    let length ← dayLength? cs
    let date ← readDay? (cs.take length)
    match cs.drop length with
    | [] => some date.midnight
    | _ :: rest => readTime? date rest

end PhotoCatalog.Calendar
