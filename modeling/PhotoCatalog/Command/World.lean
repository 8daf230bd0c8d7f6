import PhotoCatalog.Catalog.Answer
import PhotoCatalog.Image.Folder
import PhotoCatalog.Record.Reader
import PhotoCatalog.Settings

/-!
What a command works on: its environment, the files that it can read, and the catalogs among them.
-/

namespace PhotoCatalog.Command

open PhotoCatalog.Address PhotoCatalog.Catalog PhotoCatalog.Image PhotoCatalog.Text

/-- The surroundings of a command.  A catalog is also a file of the folder. -/
structure World where
  environment : Environment
  folder : Folder
  catalogs : List (PathName × Catalog)

/-- What a file holds that should be a catalog. -/
inductive Source where
  | tables (catalog : Catalog)
  | foreign

def Source.answer : Source → Query.Statement → Answer
  | .tables catalog, statement => catalog.answer statement
  | .foreign, _ => .failed (.query .notACatalog)

def tableNames : List String := imagesTable :: ChildTable.all.map ChildTable.name

/-- The catalog in an empty file, which has no tables; a single byte makes no difference. -/
def bareCatalog : Catalog := { Catalog.empty with missing := tableNames }

/-- The number of rows in a table of a catalog. -/
def countRows (catalog : Catalog) (name : String) : Except Fault Nat :=
  if !catalog.hasTable name then .error (.query (.missingTable name))
  else match ChildTable.all.find? (·.name == name) with
    | some table => .ok (catalog.children table).length
    | none => .ok catalog.images.length

/-- The number of rows in a table of a source. -/
def Source.count : Source → String → Except Fault Nat
  | .tables catalog, name => countRows catalog name
  | .foreign, _ => .error (.query .notACatalog)

/-- What the file at a place holds that should be a catalog. -/
def World.source? (world : World) (place : PathName) : Option Source :=
  match world.catalogs.lookup place, world.folder.file? place with
  | some catalog, _ => some (.tables catalog)
  | none, some data => some (if data.length ≤ 1 then .tables bareCatalog else .foreign)
  | none, none => none

def World.openCatalog (world : World) (path : PathName) : Except Fault Source := do
  let path ← world.environment.expand path
  if PathName.isMalformed path.text then throw (.catalogMissing path.text)
  match world.folder.place path with
  | .error .nameTooLong => throw (.cannotOpen path.text .nameTooLong)
  | .error _ => throw (.catalogMissing path.text)
  | .ok place =>
    match world.source? place with
    | some source => return source
    | none => throw (.catalogMissing path.text)

inductive CarryFault where
  /-- A line of the file is no document. -/
  | malformedLine
  | other (fault : Fault)

def endsCarriedLine (c : Char) : Bool := c == '\n' || c == '\r'

/-- The lines of a text that goes on, without the last one, which is not complete.  A carriage
return at the end may be the first half of a line end. -/
def completeLines (text : String) : String :=
  let back := text.toList.reverse
  let back := if back.head? == some '\r' then back.drop 1 else back
  String.ofList (back.dropWhile (!endsCarriedLine ·)).reverse

/-- The lines of a text, trimmed, without empty ones. -/
def carriedLines (text : String) : List String :=
  let lines := text.toList.splitBy fun c d => !endsCarriedLine c && !endsCarriedLine d
  (lines.map fun cs => trim (String.ofList cs)).filter (!·.isEmpty)

/-- What reading carried records comes to: the warnings, and the records or a fault. -/
abbrev Carried := List Warning × Except CarryFault (List Record)

/-- The records that lines tell of, one each. -/
def recordsOfLines : List String → Carried
  | [] => ([], .ok [])
  | line :: rest =>
    match Json.read line with
    | .error .malformedDocument => ([], .error .malformedLine)
    | .error fault => ([], .error (.other fault))
    | .ok document =>
      let reading := Record.ofDocument document
      match reading.result with
      | .error fault => (reading.warnings, .error (.other fault))
      | .ok record =>
        let (warnings, records) := recordsOfLines rest
        (reading.warnings ++ warnings, records.map (record :: ·))

/-- The number of bytes of carried records that are read at once. -/
def pieceSize : Nat := 8192

/-- The records that bytes tell of.  Lines that are complete before the first piece which is no
UTF-8 come first. -/
def recordsOfBytes (data : List UInt8) : Carried :=
  match decode? data with
  | some text => recordsOfLines (carriedLines text)
  | none =>
    let text := completeLines (decodePieces pieceSize data)
    let (warnings, records) := recordsOfLines (carriedLines text)
    (warnings, records.bind fun _ => .error (.other .malformedText))

/-- The records that a file of earlier results holds. -/
def World.carried (world : World) (path : PathName) : Carried :=
  match world.folder.read path with
  | .error cause => ([], .error (.other (.cannotOpen path.text cause)))
  | .ok data => recordsOfBytes data

end PhotoCatalog.Command
