import PhotoCatalog.Catalog.Truth
import PhotoCatalog.Json.Printer
import PhotoCatalog.Query.Depth
import PhotoCatalog.Query.Statement

/-!
Answering a query.  The rows of an answer come in the order of their paths, and each carries the
people and objects found on its image as documents.  An answer may end with a fault: then the rows
before it have been delivered.
-/

namespace PhotoCatalog.Catalog

open PhotoCatalog.Query

/-- The rows that a query delivers, and the fault that ends them, if there is one. -/
structure Answer where
  rows : List Row
  fault : Option Fault

def Answer.failed (fault : Fault) : Answer := ⟨[], some fault⟩

/-- The answer that values make up: the mappings up to the first value that is none. -/
def Answer.ofValues : List Value → Answer
  | [] => ⟨[], none⟩
  | .map row :: rest =>
    let answer := Answer.ofValues rest
    { answer with rows := row :: answer.rows }
  | _ :: _ => .failed .notAMapping

def Cell.documentText : Cell → Except Fault String
  | .null => .ok "null"
  | .int n => .ok (toString n)
  | .real x => .ok (Number.storedText x)
  | .text s => .ok (Json.writeText s)
  | .blob _ => .error (.query .bytesInDocument)

def documentEntry (key : String) (cell : Cell) : Except Fault String := do
  return Json.writeText key ++ ":" ++ (← cell.documentText)

def cornerKeys : List String := ["x_min", "y_min", "x_max", "y_max"]

def ChildRow.document (table : ChildTable) (row : ChildRow) : Except Fault String := do
  let cells := [(table.matchColumn, row.label), ("confidence", row.confidence)]
    ++ cornerKeys.zipIdx.map fun (key, i) => (key, (row.corners[i]?).getD .null)
  let entries ← cells.mapM fun (key, cell) => documentEntry key cell
  return "\x7b" ++ ",".intercalate entries ++ "\x7d"

/-- The rows of a child table that belong to an image, as one document. -/
def rowsDocument (catalog : Catalog) (table : ChildTable) (id : Nat) :
    Except Fault String := do
  let documents ← (catalog.childrenOf table id).mapM (·.document table)
  return "[" ++ ",".intercalate documents ++ "]"

def resultRow (catalog : Catalog) (row : ImageRow) : Except Fault Row := do
  let people ← catalog.rowsDocument .people row.id
  let objects ← catalog.rowsDocument .objects row.id
  let cells := ("id", Cell.int row.id) :: ("path", row.path) :: row.cells
  return cells.map (fun (column, cell) => (column, cell.toValue))
    ++ [(peopleRowsColumn, .text people), (objectRowsColumn, .text objects)]

/-- Insert an image into a list that is ordered by paths. -/
def insertByPath (row : ImageRow) : List ImageRow → List ImageRow
  | [] => [row]
  | head :: rest =>
    if row.path.order head.path == .lt then row :: head :: rest else head :: insertByPath row rest

/-- The images of a catalog in the order of their paths. -/
def byPath (catalog : Catalog) : List ImageRow := catalog.images.foldl (flip insertByPath) []

mutual

/-- The child tables that a condition names. -/
def tablesOf : Condition → List ChildTable
  | .anyOf items => tablesOfAll items
  | .allOf items => tablesOfAll items
  | .existsIn table condition => table :: tablesOf condition
  | _ => []

def tablesOfAll : List Condition → List ChildTable
  | [] => []
  | condition :: rest => tablesOf condition ++ tablesOfAll rest

end

/-- The tables that every query names, and those that its conditions name. -/
def tablesNeeded (conditions : List Condition) : List String :=
  imagesTable :: (ChildTable.people :: .objects :: tablesOfAll conditions).map ChildTable.name

/-- Whether a condition is about coordinates alone, which are indexed together. -/
def isAboutCoordinates : Condition → Bool
  | .within _ => true
  | .range column _ _ _ => column == latitudeColumn || column == longitudeColumn
  | _ => false

def isPathPattern : Condition → Bool
  | .like column _ _ => column == "path"
  | _ => false

/-- Whether a condition is about paths alone, which are indexed. -/
def isAboutPaths : Condition → Bool
  | .anyOf items => items.all isPathPattern
  | condition => isPathPattern condition

/-- Whether a condition bounds the latitude, so that images are found through their coordinates and
sorted afterwards. -/
def boundsLatitude : Condition → Bool
  | .within _ => true
  | .range column _ _ _ => column == latitudeColumn
  | _ => false

/-- The conditions in the order in which they are checked: first those that the index tells by which
images are found, last those that name child tables. -/
def checkOrder (conditions : List Condition) : List Condition :=
  let isIndexed := if conditions.any boundsLatitude then isAboutCoordinates else isAboutPaths
  let (indexed, others) := conditions.partition isIndexed
  let (own, inner) := others.partition fun condition => (tablesOf condition).isEmpty
  indexed ++ own ++ inner

/-- Whether a row satisfies all conditions; the first one that it does not satisfy ends the
check. -/
def Subject.isSelected (s : Subject) : List Condition → Except Fault Bool
  | [] => .ok true
  | condition :: rest => do
    match ← s.satisfies condition with
    | some true => s.isSelected rest
    | _ => return false

/-- The row of an image, if the query selects it. -/
def select (catalog : Catalog) (conditions : List Condition) (row : ImageRow) :
    Except Fault (Option Row) := do
  if ← (catalog.subject row).isSelected conditions then
    return some (← catalog.resultRow row)
  else return none

/-- The rows up to the first fault. -/
def rowsUpToFault : List (Except Fault (Option Row)) → Answer
  | [] => ⟨[], none⟩
  | .error fault :: _ => .failed fault
  | .ok none :: rest => rowsUpToFault rest
  | .ok (some row) :: rest =>
    let answer := rowsUpToFault rest
    { answer with rows := row :: answer.rows }

/-- The answer as it is delivered: rows are fetched one ahead, so that a fault takes the row before
it along. -/
def Answer.fetchedAhead (answer : Answer) : Answer :=
  if answer.fault.isSome then { answer with rows := answer.rows.dropLast } else answer

/-- Why a catalog does not accept a query, if it does not. -/
def refusal? (catalog : Catalog) (statement : Statement) : Option QueryFault :=
  if isTooDeep statement.conditions then some .tooDeep
  else ((tablesNeeded statement.conditions).find? (!catalog.hasTable ·)).map .missingTable

/-- What a catalog answers to a query.  A query that it does not accept comes first, then parameters
that cannot be bound; where the images have to be sorted, the whole answer is computed before its
first row. -/
def answer (catalog : Catalog) (statement : Statement) : Answer :=
  match catalog.refusal? statement with
  | some fault => .failed (.query fault)
  | none =>
    match statement.params.forM (fun p => discard (Cell.ofValue p.2)) with
    | .error fault => .failed fault
    | .ok () =>
      let conditions := checkOrder statement.conditions
      let rows := catalog.byPath.map (catalog.select conditions)
      if statement.conditions.any boundsLatitude then
        match rows.mapM id with
        | .ok rows => ⟨rows.filterMap id, none⟩
        | .error fault => .failed fault
      else (rowsUpToFault rows).fetchedAhead

end PhotoCatalog.Catalog
