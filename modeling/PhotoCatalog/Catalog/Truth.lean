import PhotoCatalog.Catalog.Formula
import PhotoCatalog.Catalog.Table
import PhotoCatalog.Query.Condition

/-!
Whether an image satisfies a condition.  Comparisons with null are neither true nor false, and this
third truth value is carried through alternatives and conjunctions; an image is selected when its
condition is true.
-/

namespace PhotoCatalog.Catalog

open PhotoCatalog.Query

/-- A truth value, or nothing when it is unknown. -/
abbrev Truth := Option Bool

/-- Both: false when one side is false, true when both are true, else unknown. -/
def Truth.and : Truth → Truth → Truth
  | some false, _ => some false
  | _, some false => some false
  | some true, some true => some true
  | _, _ => none

/-- One of two: true when one side is true, false when both are false, else unknown. -/
def Truth.or : Truth → Truth → Truth
  | some true, _ => some true
  | _, some true => some true
  | some false, some false => some false
  | _, _ => none

/-- What a condition is checked against: a row, with its columns and with the rows of the child
tables that belong to it. -/
structure Subject where
  cell : String → Cell
  affinity : String → Affinity
  children : ChildTable → List Subject

/-- A row of a child table, which no other rows belong to. -/
def ChildRow.subject (table : ChildTable) (row : ChildRow) : Subject where
  cell column :=
    if column = table.matchColumn then row.label
    else if column = "confidence" then row.confidence
    else .null
  affinity column := if column = "confidence" then .real else .text
  children _ := []

/-- An image of a catalog with the rows that belong to it. -/
def subject (catalog : Catalog) (row : ImageRow) : Subject where
  cell := row.cell
  affinity := imageAffinity
  children table := (catalog.childrenOf table row.id).map (·.subject table)

def Subject.compare? (s : Subject) (column : String) (cell : Cell) : Option Ordering :=
  (s.cell column).compare? (cell.compared (s.affinity column))

def Subject.equals (s : Subject) (column : String) (cell : Cell) : Truth :=
  (s.compare? column cell).map (· == .eq)

def Subject.atLeast (s : Subject) (column : String) (cell : Cell) : Truth :=
  (s.compare? column cell).map (· != .lt)

def Subject.atMost (s : Subject) (column : String) (cell : Cell) : Truth :=
  (s.compare? column cell).map (· != .gt)

def Subject.less (s : Subject) (column : String) (cell : Cell) : Truth :=
  (s.compare? column cell).map (· == .lt)

def Subject.isSet (s : Subject) (column : String) : Truth := some (!(s.cell column).isNull)

def Subject.between (s : Subject) (column : String) (low high : Cell) : Truth :=
  (s.atLeast column low).and (s.atMost column high)

def Subject.inBox (s : Subject) (column : String) (box : Float × Float) : Truth :=
  s.between column (.ofReal box.1) (.ofReal box.2)

/-- Whether a column equals a text, perhaps up to the case of ASCII letters. -/
def Subject.equalsText (s : Subject) (column : String) (cell : Cell) (noCase : Bool) : Truth :=
  if noCase then (s.cell column).equalNoCase? (cell.compared (s.affinity column))
  else s.equals column cell

/-- The greatest size of a pattern in bytes. -/
def patternLimit : Nat := 50000

/-- Whether a column matches a pattern.  Bytes match none. -/
def Subject.isLike (s : Subject) (column pattern : String) : Except Fault Truth :=
  match s.cell column with
  | .blob _ => .ok (some false)
  | cell =>
    if patternLimit < pattern.utf8ByteSize then .error (.query .patternTooLong)
    else .ok (cell.matchText?.map (Pattern.likeMatch pattern))

def Subject.inRange (s : Subject) (column : String) (low : Cell) (high : Option Cell)
    (upperExclusive : Bool) : Truth :=
  (s.isSet column).and (match high with
    | none => s.equals column low
    | some high =>
      if upperExclusive then (s.atLeast column low).and (s.less column high)
      else s.between column low high)

/-- Whether the place of a row lies within the boxes of a region. -/
def Subject.inBoxes (s : Subject) (region : Geo.Region) : Truth :=
  let longitudes := region.lonBoxes.map (s.inBox region.lonColumn)
  let inLongitudes :=
    if longitudes.isEmpty then some true else longitudes.foldr Truth.or (some false)
  (((s.isSet region.latColumn).and (s.isSet region.lonColumn)).and
    (s.inBox region.latColumn region.latBox)).and inLongitudes

/-- Whether the place of a row lies in a region.  The distance is computed only within the boxes. -/
def Subject.isWithin (s : Subject) (region : Geo.Region) : Except Fault Truth := do
  match s.inBoxes region with
  | some true =>
    let originLat ← Cell.ofValue region.latitude
    let originLon ← Cell.ofValue region.longitude
    let km ← distance (s.cell region.latColumn) (s.cell region.lonColumn) originLat originLon
    return (km.compare? (.ofReal region.maxKm)).map (· != .gt)
  | truth => return truth

mutual

def Subject.satisfies (s : Subject) : Condition → Except Fault Truth
  | .exact column value noCase => do return s.equalsText column (← Cell.ofValue value) noCase
  | .like column pattern _ => s.isLike column pattern
  | .range column low high upperExclusive => do
    return s.inRange column (← Cell.ofValue low) (← high.mapM Cell.ofValue) upperExclusive
  | .flag column value => do return s.equals column (.int (← value.toInt))
  | .anyOf items => s.satisfiesAny items
  | .allOf items => s.satisfiesAll items
  | .existsIn table condition => do
    let found ← (s.children table).anyM fun child => do
      return (← child.satisfies condition) == some true
    return some found
  | .within region => s.isWithin region
  | .unknown => .error .wrongKind

def Subject.satisfiesAny (s : Subject) : List Condition → Except Fault Truth
  | [] => return some false
  | condition :: rest => do
    match ← s.satisfies condition with
    | some true => return some true
    | truth => return truth.or (← s.satisfiesAny rest)

def Subject.satisfiesAll (s : Subject) : List Condition → Except Fault Truth
  | [] => return some true
  | condition :: rest => do
    match ← s.satisfies condition with
    | some false => return some false
    | truth => return truth.and (← s.satisfiesAll rest)

end

end PhotoCatalog.Catalog
