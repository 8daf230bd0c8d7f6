import PhotoCatalog.Fault
import PhotoCatalog.Number.Order
import PhotoCatalog.Number.Stored
import PhotoCatalog.Pattern.Glob
import PhotoCatalog.Text.Utf8

/-!
What the catalog stores in one place.  A column prefers a kind of cell, and what is stored in it or
compared with it is converted to that kind where nothing is lost.  Null is neither equal nor unequal
to anything; otherwise numbers come before texts, and texts before bytes.
-/

namespace PhotoCatalog.Catalog

open PhotoCatalog.Number PhotoCatalog.Text

/-- A stored value. -/
inductive Cell where
  | null
  | int (n : Int)
  | real (x : Float)
  | text (s : String)
  | blob (data : List UInt8)

/-- The kind of cell that a column prefers. -/
inductive Affinity where
  | whole | real | text
deriving Repr, DecidableEq

/-- Whether a whole number fits into 64 bits. -/
def fits (n : Int) : Bool := -0x8000000000000000 ≤ n && n < 0x8000000000000000

/-- The whole number that a double is, if it lies within 64 bits and is neither the least nor the
greatest number there. -/
def wholeOfReal? (x : Float) : Option Int :=
  if isWhole x then
    (truncated? x).filter fun n => -0x8000000000000000 < n && n < 0x7FFFFFFFFFFFFFFF
  else none

/-- A real, which is null when it is not a number. -/
def Cell.ofReal (x : Float) : Cell := if isNaN x then .null else .real x

/-- The number that a text spells to the catalog: blanks, a sign, digits with at most one point, and
an exponent.  A whole number within 64 bits stays whole. -/
def numberOfText? (text : String) : Option Cell := do
  let (negative, cs) := takeSign (text.toList.dropWhile isAsciiBlank)
  let (whole, rest) := takeDigits cs
  let (pointed, fraction, rest) := match rest with
    | '.' :: rest => (true, takeDigits rest)
    | rest => (false, [], rest)
  guard (!whole.isEmpty || !fraction.isEmpty)
  let power := rest.takeWhile (!isAsciiBlank ·)
  guard ((rest.dropWhile (!isAsciiBlank ·)).all isAsciiBlank)
  let (below, digits) ← exponentDigits? power
  let n := signed negative (ofDigits whole)
  if !pointed && power.isEmpty && fits n then return .int n
  else
    let x := storedReal whole fraction (signed below (exponentOf digits))
    return .real (if negative then -x else x)

/-- The text of a number. -/
def Cell.numberText : Cell → Cell
  | .int n => .text (toString n)
  | .real x => .text (storedText x)
  | cell => cell

/-- The number that a cell spells, or the cell itself. -/
def Cell.spelledNumber : Cell → Cell
  | .text s => (numberOfText? s).getD (.text s)
  | cell => cell

/-- A real that is a whole number, as one. -/
def Cell.whole : Cell → Cell
  | .real x =>
    match wholeOfReal? x with
    | some n => .int n
    | none => .real x
  | cell => cell

/-- A whole number as a real; a real zero loses its sign. -/
def Cell.asReal : Cell → Cell
  | .int n => .real ((ofInt? n).getD 0.0)
  | .real x => .real (if x == 0.0 then 0.0 else x)
  | cell => cell

/-- A cell as a column stores it. -/
def Cell.stored (affinity : Affinity) (cell : Cell) : Cell :=
  match affinity with
  | .text => cell.numberText
  | .whole => cell.spelledNumber.whole
  | .real => cell.spelledNumber.asReal

/-- A cell as it is compared with a column. -/
def Cell.compared (affinity : Affinity) (cell : Cell) : Cell :=
  match affinity with
  | .text => cell.numberText
  | .whole | .real => cell.spelledNumber

def Cell.ofValue : Value → Except Fault Cell
  | .null => .ok .null
  | .bool b => .ok (.int (if b then 1 else 0))
  | .int n => if fits n then .ok (.int n) else .error .outOfRange
  | .float x => .ok (.ofReal x)
  | .text s => .ok (.text s)
  | .bytes data => .ok (.blob data)
  | .date d => .ok (.text d.text)
  | .moment m => .ok (.text (m.text " "))
  | .list _ | .map _ => .error (.query .unsupportedParameter)

def Cell.toValue : Cell → Value
  | .null => .null
  | .int n => .int n
  | .real x => .float x
  | .text s => .text s
  | .blob data => .bytes data

def Cell.isNull : Cell → Bool
  | .null => true
  | _ => false

def Cell.amount? : Cell → Option Amount
  | .int n => some (.int n)
  | .real x => some (.float x)
  | _ => none

def compareBytes (s t : List UInt8) : Ordering :=
  compareOfLessAndEq (s.map UInt8.toNat) (t.map UInt8.toNat)

/-- The order of two texts, code point by code point. -/
def compareTexts (s t : String) : Ordering := compareOfLessAndEq s t

/-- Where the kind of a cell stands in the order of all cells. -/
def Cell.rank : Cell → Nat
  | .null => 0
  | .int _ | .real _ => 1
  | .text _ => 2
  | .blob _ => 3

/-- The order of all cells, by which rows are sorted. -/
def Cell.order (a b : Cell) : Ordering :=
  match a, b with
  | .text s, .text t => compareTexts s t
  | .blob s, .blob t => compareBytes s t
  | a, b =>
    match a.amount?, b.amount? with
    | some m, some n => (m.compare? n).getD .eq
    | _, _ => compare a.rank b.rank

/-- The order of two cells in a comparison; nothing is known when one of them is null. -/
def Cell.compare? (a b : Cell) : Option Ordering :=
  if a.isNull || b.isNull then none else some (a.order b)

/-- Whether two cells are equal, texts up to the case of ASCII letters. -/
def Cell.equalNoCase? (a b : Cell) : Option Bool :=
  match a, b with
  | .text s, .text t => some (Pattern.equalNoCase s t)
  | a, b => (a.compare? b).map (· == .eq)

/-- The text that a cell is matched as; null and bytes have none. -/
def Cell.matchText? : Cell → Option String
  | .null | .blob _ => none
  | .text s => some s
  | .int n => some (toString n)
  | .real x => some (storedText x)

end PhotoCatalog.Catalog
