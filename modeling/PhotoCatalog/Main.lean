import PhotoCatalog.Command.Run

/-!
The command line.  Catalogs are kept as documents; the files that a search may read are loaded
before it begins.
-/

namespace PhotoCatalog

open PhotoCatalog.Address PhotoCatalog.Command PhotoCatalog.Image

/-- The file of a name, if it can be read. -/
def loadFile (name : String) : IO (Option (String × List UInt8)) := do
  try
    let data ← IO.FS.readBinFile name
    return some (name, data.toList)
  catch _ => return none

/-- The variables that settings depend on, as far as they are set. -/
def loadEnvironment : IO Environment := do
  let names := ["IMGQUERY_LANGUAGE", "IMGQUERY_DB_PATH", "IMGQUERY_EMBED_IMAGES",
    "IMGQUERY_LOG_LEVEL"]
  let vars ← names.filterMapM fun name => do return (← IO.getEnv name).map (name, ·)
  return ⟨vars, [("", (← IO.getEnv "HOME").getD "/")]⟩

def catalogOfBytes? (data : List UInt8) : Option Catalog := do
  let document ← (Json.read (← Text.decode? data)).toOption
  (Catalog.ofDocument document).toOption

def imagePaths (catalog : Catalog) : List String :=
  catalog.images.map fun row => row.path.toValue.shown

/-- The surroundings of a request: its catalog, the file of its carried records, and the images of
the catalog where they may be embedded. -/
def loadWorld (environment : Environment) (request : Request) : IO World := do
  let settings := Settings.load environment request.givens.settings
  let expanded := settings.bind fun settings => environment.expand settings.catalog
  let catalogFile ← match expanded with
    | .ok path => loadFile path.text
    | .error _ => pure none
  let carried ← match request.givens.value? .append with
    | some path => loadFile path
    | none => pure none
  let catalog := catalogFile.bind fun (name, data) =>
    (catalogOfBytes? data).map fun catalog => (PathName.ofText name, catalog)
  let images ← ((catalog.map fun (_, c) => imagePaths c).getD []).filterMapM loadFile
  let files := catalogFile.toList ++ carried.toList ++ images
  return ⟨environment, .ofList files, catalog.toList⟩

def secondsText (milliseconds : Nat) : String := Number.placesText milliseconds 3

def runCommand (arguments : List String) : IO UInt32 := do
  let environment ← loadEnvironment
  let world ← match Request.ofArguments arguments with
    | .ok request => loadWorld environment request
    | .error _ => pure ⟨environment, .ofList [], []⟩
  let start ← IO.monoMsNow
  let outcome := run world arguments
  IO.eprint outcome.errorText
  let stop ← IO.monoMsNow
  IO.print (outcome.outputText (secondsText (stop - start)))
  if outcome.fault.isSome then IO.eprintln "The command has failed."
  return UInt32.ofNat outcome.status

end PhotoCatalog

def main (arguments : List String) : IO UInt32 := PhotoCatalog.runCommand arguments
