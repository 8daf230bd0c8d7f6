import PhotoCatalog.Catalog.Cell
import PhotoCatalog.Record.Lookup
import PhotoCatalog.Schema

/-!
The tables of a catalog.  Images have a fixed set of columns; each child table keeps, for images,
what was found on them.
-/

namespace PhotoCatalog

namespace Catalog

/-- The columns of images other than the number and the path, with the kind of cell that each of
them prefers. -/
def imageColumns : List (String × Affinity) := [
  ("width", .whole), ("height", .whole), ("short_description", .text), ("long_description", .text),
  ("picture_type", .text), ("overall_mood", .text), ("style_type", .text), ("has_nudity", .whole),
  ("has_explicit_content", .whole), ("keywords", .text), ("camera_make", .text),
  ("camera_model", .text), ("gps_latitude", .real), ("gps_longitude", .real),
  ("gps_altitude", .real), ("exposure_time", .real), ("f_number", .real), ("iso", .whole),
  ("focal_length", .real), ("flash", .whole), ("exposure_program", .whole),
  ("metering_mode", .whole), ("bits_per_sample", .whole), ("orientation", .whole),
  ("x_resolution", .real), ("y_resolution", .real), ("file_size", .whole), ("file_name", .text),
  ("file_extension", .text), ("pixel_format", .text), ("format", .text), ("artist", .text),
  ("copyright", .text), ("date_time_original", .text), ("date_time_digitized", .text),
  ("software", .text), ("color_space", .text), ("resolution_unit", .whole),
  ("people_count", .whole), ("objects_count", .whole), ("scene_label", .text),
  ("scene_confidence", .real), ("metadata_json", .text), ("description_json", .text),
  ("people_json", .text), ("objects_json", .text), ("scenes_json", .text)]

/-- The kind of cell that a column of images prefers. -/
def imageAffinity (column : String) : Affinity := (imageColumns.lookup column).getD .text

/-- An image: its number, its path and its other columns. -/
structure ImageRow where
  id : Nat
  path : Cell
  cells : List (String × Cell)

/-- A row of a child table: what was found, how sure that is, and where it is on the image.
Keywords have no confidence, and only people and objects have a place. -/
structure ChildRow where
  image : Nat
  label : Cell
  confidence : Cell
  corners : List Cell

end Catalog

/-- A catalog.  Tables may be missing. -/
structure Catalog where
  images : List Catalog.ImageRow
  children : ChildTable → List Catalog.ChildRow
  missing : List String

namespace Catalog

def empty : Catalog := ⟨[], fun _ => [], []⟩

def ImageRow.cell (row : ImageRow) (column : String) : Cell :=
  if column = "path" then row.path
  else if column = "id" then .int row.id
  else (row.cells.lookup column).getD .null

/-- The rows of a child table that belong to an image. -/
def childrenOf (catalog : Catalog) (table : ChildTable) (id : Nat) : List ChildRow :=
  (catalog.children table).filter (·.image == id)

def hasTable (catalog : Catalog) (name : String) : Bool := !catalog.missing.contains name

structure NewImage where
  path : Cell
  cells : List (String × Cell)
  children : ChildTable → List (Cell × Cell × List Cell)

/-- A row of a child table as it is stored. -/
def ChildRow.ofCells (image : Nat) : Cell × Cell × List Cell → ChildRow
  | (label, confidence, corners) =>
    ⟨image, label.stored .text, confidence.stored .real, corners.map (Cell.stored .whole)⟩

/-- Put an image into a catalog; images are numbered from 1. -/
def insert (catalog : Catalog) (image : NewImage) : Catalog :=
  let id := catalog.images.length + 1
  let cells := imageColumns.map fun (column, affinity) =>
    (column, ((image.cells.lookup column).getD .null).stored affinity)
  { catalog with
    images := catalog.images ++ [⟨id, image.path.stored .text, cells⟩]
    children := fun table =>
      catalog.children table ++ (image.children table).map (ChildRow.ofCells id) }

def cellsOfEntries (entries : List (String × Value)) : Except Fault (List (String × Cell)) :=
  entries.mapM fun (column, value) => do return (column, ← Cell.ofValue value)

/-- The items of a list; nothing else has any. -/
def itemsOf : Value → List Value
  | .list items => items
  | _ => []

def keywordCells (value : Value) : Except Fault (Cell × Cell × List Cell) := do
  return (← Cell.ofValue value, .null, [])

/-- Something detected as a row of its table: label, confidence, and corners where there are
any. -/
def detectionCells (value : Value) : Except Fault (Cell × Cell × List Cell) := do
  match itemsOf value with
  | [label, confidence] => return (← Cell.ofValue label, ← Cell.ofValue confidence, [])
  | label :: confidence :: corners :: _ =>
    let corners ← (itemsOf corners).mapM Cell.ofValue
    return (← Cell.ofValue label, ← Cell.ofValue confidence, corners)
  | _ => throw .wrongKind

def NewImage.ofDocument (document : Value) : Except Fault NewImage := do
  let rows (key : String) (read : Value → Except Fault (Cell × Cell × List Cell)) :=
    (itemsOf (document.entry key)).mapM read
  let cells ← match document.entry "columns" with
    | .map entries => cellsOfEntries entries
    | _ => pure []
  let path ← Cell.ofValue (document.entry "path")
  let keywords ← rows "keywords" keywordCells
  let people ← rows "people" detectionCells
  let objects ← rows "objects" detectionCells
  let scenes ← rows "scenes" detectionCells
  return ⟨path, cells, fun
    | .keywords => keywords
    | .people => people
    | .objects => objects
    | .scenes => scenes⟩

/-- The catalog that a document tells of: images with their columns, and tables that are missing. -/
def ofDocument (document : Value) : Except Fault Catalog := do
  let images ← (itemsOf (document.entry "images")).mapM NewImage.ofDocument
  let missing := (itemsOf (document.entry "drop")).map Value.shown
  return { images.foldl Catalog.insert .empty with missing := missing }

end Catalog

end PhotoCatalog
