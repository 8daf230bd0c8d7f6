/-!
Tables over code points: spans for a set of characters, runs for a mapping of characters.
-/

namespace PhotoCatalog.Text

structure Span where
  first : Nat
  last : Nat
deriving Repr, DecidableEq

/-- Whether the code point lies in the span. -/
def Span.contains (span : Span) (point : Nat) : Bool :=
  span.first ≤ point && point ≤ span.last

def inSpans (spans : List Span) (c : Char) : Bool :=
  spans.any (·.contains c.toNat)

/-- Every `stride`-th code point from `first` to `last`; the first one is mapped to `image`, and
each other one by the same distance. -/
structure CaseRun where
  first : Nat
  last : Nat
  stride : Nat
  image : Nat
deriving Repr, DecidableEq

def CaseRun.contains (run : CaseRun) (point : Nat) : Bool :=
  run.first ≤ point && point ≤ run.last && (point - run.first) % run.stride == 0

/-- The image of a code point of the run. -/
def CaseRun.imageOf (run : CaseRun) (point : Nat) : Nat :=
  run.image + (point - run.first)

/-- The image of a character under a list of runs; a character of no run is its own image. -/
def mapByRuns (runs : List CaseRun) (c : Char) : Char :=
  match runs.find? (·.contains c.toNat) with
  | some run => Char.ofNat (run.imageOf c.toNat)
  | none => c

end PhotoCatalog.Text
