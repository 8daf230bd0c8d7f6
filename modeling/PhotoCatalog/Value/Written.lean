import PhotoCatalog.Value.Basic
import PhotoCatalog.Number.Decimal
import PhotoCatalog.Text.Quoted

/-!
The text of a value.  `Value.quoted` is the form inside lists, mappings and messages, where texts
stand in quotes; `Value.shown` differs from it only outside of them: a text is shown as it is, a day
and a moment by their ISO form.
-/

namespace PhotoCatalog

open PhotoCatalog.Calendar PhotoCatalog.Number

/-- A day with the name of its kind. -/
def quotedDate (d : Date) : String :=
  s!"datetime.date({d.year}, {d.month}, {d.day})"

/-- An offset as days, seconds and microseconds, of which zeros are left out; days alone may be
negative. -/
def quotedOffset (offset : Int) : String :=
  if offset = 0 then "datetime.timezone.utc"
  else
    let days := offset / microsPerDay
    let rest := offset % microsPerDay
    let seconds := rest / 1000000
    let micros := rest % 1000000
    let parts := [("days", days), ("seconds", seconds), ("microseconds", micros)]
    let shown := (parts.filter (·.2 ≠ 0)).map fun (name, n) => name ++ "=" ++ toString n
    "datetime.timezone(datetime.timedelta(" ++ ", ".intercalate shown ++ "))"

/-- A moment with the name of its kind; seconds and microseconds that are zero are left out. -/
def quotedMoment (m : Moment) : String :=
  let parts := [m.date.year, m.date.month, m.date.day, m.hour, m.minute]
    ++ (if m.second ≠ 0 ∨ m.micro ≠ 0 then [m.second] else [])
    ++ (if m.micro ≠ 0 then [m.micro] else [])
  let zone := match m.offset with
    | none => ""
    | some offset => ", tzinfo=" ++ quotedOffset offset
  "datetime.datetime(" ++ ", ".intercalate (parts.map toString) ++ zone ++ ")"

mutual

/-- The form of a value inside lists, mappings and messages. -/
def Value.quoted : Value → String
  | .null => "None"
  | .bool b => if b then "True" else "False"
  | .int n => toString n
  | .float x => floatText x
  | .text s => Text.quoted s
  | .bytes data => Text.quotedBytes data
  | .date d => quotedDate d
  | .moment m => quotedMoment m
  | .list items => "[" ++ ", ".intercalate (quotedItems items) ++ "]"
  | .map entries => "\x7b" ++ ", ".intercalate (quotedEntries entries) ++ "\x7d"

def quotedItems : List Value → List String
  | [] => []
  | v :: rest => v.quoted :: quotedItems rest

def quotedEntries : List (String × Value) → List String
  | [] => []
  | (k, v) :: rest => (Text.quoted k ++ ": " ++ v.quoted) :: quotedEntries rest

end

def Value.shown : Value → String
  | .text s => s
  | .date d => d.text
  | .moment m => m.text " "
  | v => v.quoted

end PhotoCatalog
