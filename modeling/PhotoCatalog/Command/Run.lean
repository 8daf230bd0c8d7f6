import PhotoCatalog.Command.Request
import PhotoCatalog.Command.World
import PhotoCatalog.Search.Task
import PhotoCatalog.Terminal.Table

/-!
Running a command.  A command prints texts on two channels and ends with a status; a fault that it
has no message for ends it as well, after what has been printed so far.
-/

namespace PhotoCatalog.Command

open PhotoCatalog.Catalog PhotoCatalog.Terminal

/-- Something printed: a text, or the number of results, with which the time they took is told. -/
inductive Printed where
  | text (s : String)
  | results (count : Nat)
deriving Repr, DecidableEq

/-- The printed text, where the time that results took is known. -/
def Printed.toText (seconds : String) : Printed → String
  | .text s => s
  | .results count => "\n" ++ toString count ++ " result(s) in " ++ seconds ++ "s\n"

/-- What a command comes to. -/
structure Outcome where
  status : Nat
  output : List Printed
  errors : List String
  warnings : List Warning
  /-- The fault that ended the command, if it had no message for it. -/
  fault : Option Fault

def Outcome.outputText (outcome : Outcome) (seconds : String) : String :=
  String.join (outcome.output.map (·.toText seconds))

def Outcome.errorText (outcome : Outcome) : String := String.join outcome.errors

def Outcome.done (output : List Printed) (errors : List String) (warnings : List Warning) :
    Outcome :=
  ⟨0, output, errors, warnings, none⟩

def usageStatus : Nat := 2

/-- A command whose arguments are malformed, or a line of whose carried records is. -/
def Outcome.misused (warnings : List Warning) : Outcome := ⟨usageStatus, [], [], warnings, none⟩

def line (marked : String) : String := printed (shown marked) ++ "\n"

/-- A command that ends with a message on the error channel. -/
def Outcome.refused (message : String) (warnings : List Warning) : Outcome :=
  ⟨1, [], [line ("[red]" ++ message ++ "[/red]")], warnings, none⟩

/-- A command that a fault ends: with its message, if it has one. -/
def Outcome.failed (fault : Fault) (warnings : List Warning) : Outcome :=
  match fault.message? with
  | some message => .refused message warnings
  | none => ⟨1, [], [], warnings, some fault⟩

/-- A command that a fault ends while files are being opened.  A file that cannot be opened is
called the one of carried records. -/
def Outcome.unopened (fault : Fault) (warnings : List Warning) : Outcome :=
  match fault with
  | .cannotOpen path cause =>
    .refused ("Cannot read --append file: " ++ cause.message ++ ": " ++ Text.quoted path) warnings
  | fault => .failed fault warnings

/-- The same command with more printed before what it has printed. -/
def Outcome.after (outcome : Outcome) (output : List Printed) (errors : List String) : Outcome :=
  { outcome with output := output ++ outcome.output, errors := errors ++ outcome.errors }

/-- The criteria of a request, and the query that they are compiled to. -/
def Request.compile (request : Request) : Except Fault (Criteria × Query.Statement) := do
  let criteria ← request.givens.criteria
  return (criteria, ← Query.compile criteria)

def paramsValue (statement : Query.Statement) : Value := .map statement.params

/-- Print a query and the values bound to its parameters. -/
def sqlLines (statement : Query.Statement) : List Printed :=
  let params := statement.params.map fun (name, value) =>
    Printed.text (line ("  [bold]:" ++ name ++ "[/bold] = " ++ value.quoted))
  let scans := if statement.fullScanColumns.isEmpty then [] else
    [Printed.text (line ("\n[yellow]Leading wildcard, full scan of:[/yellow] "
      ++ ", ".intercalate statement.fullScanColumns))]
  [.text (printed statement.sql ++ "\n"), .text "\n"] ++ params ++ scans

def Request.showSql (request : Request) : Outcome :=
  match request.compile with
  | .error fault => .failed fault []
  | .ok (_, statement) => .done (sqlLines statement) [] []

/-- The path of a record in a table; that of an embedded image is cut off. -/
def shortPath (path : String) : String :=
  if isEmbedded path then String.ofList (path.toList.take 32) ++ "…" else path

def sizeText (record : Record) : String :=
  match record.width, record.height with
  | some w, some h => if w ≠ 0 ∧ h ≠ 0 then toString w ++ "×" ++ toString h else ""
  | _, _ => ""

def recordCells (record : Record) (number : Nat) : List String :=
  [toString number, shortPath record.path, sizeText record,
    if record.scene.success then record.scene.label else "",
    ", ".intercalate record.people.faces,
    ", ".intercalate (record.objects.labelCounts.map fun (label, n) => label ++ "×" ++ toString n),
    ", ".intercalate (record.description.keywords.take 6)]

def recordTable (records : List Record) : Table where
  columns := [⟨"#", .right, some 4⟩, ⟨"File", .left, none⟩, ⟨"Size", .right, none⟩,
    ⟨"Scene", .left, none⟩, ⟨"People", .left, none⟩, ⟨"Objects", .left, none⟩,
    ⟨"Keywords", .left, none⟩]
  rows := records.zipIdx.map fun (record, i) => recordCells record (i + 1)

def tableText (table : Table) (title : Option String) : Printed :=
  .text (String.join ((table.draw title).map (· ++ "\n")))

def noResults (criteria : Criteria) : String :=
  line ("[yellow]No results found for " ++ criteria.describe ++ "[/yellow]")

def documentLines (criteria : Criteria) (progress : Search.Progress) : Outcome :=
  let output := progress.records.map fun record =>
    Printed.text (Json.write record.document ++ "\n")
  match progress.fault with
  | some fault => (Outcome.failed fault progress.warnings).after output []
  | none =>
    let errors := if progress.records.isEmpty then [noResults criteria] else []
    .done output errors progress.warnings

def resultTable (criteria : Criteria) (progress : Search.Progress) : Outcome :=
  match progress.fault with
  | some fault => .failed fault progress.warnings
  | none =>
    let output := if progress.records.isEmpty then [.text (noResults criteria)] else
      [tableText (recordTable progress.records) none, .results progress.records.length]
    .done output [] progress.warnings

/-- The records that a request carries over. -/
def Request.carried (request : Request) (world : World) : Carried :=
  match request.givens.value? .append with
  | some path => world.carried (Address.PathName.ofText path)
  | none => ([], .ok [])

/-- Find images: settings first, then the criteria, the carried records, and the catalog. -/
def Request.find (request : Request) (world : World) : Outcome :=
  let verbose := (request.givens.switch? .verbose).isSome
  let compiled := do
    let settings ← Settings.load world.environment request.givens.settings
    checkLogLevel (if verbose then "DEBUG" else settings.logLevel)
    return (settings, ← request.compile)
  match compiled with
  | .error fault => .failed fault []
  | .ok (settings, criteria, statement) =>
    match request.carried world with
    | (warnings, .error .malformedLine) => .misused warnings
    | (warnings, .error (.other fault)) => .unopened fault warnings
    | (warnings, .ok carried) =>
      match world.openCatalog settings.catalog with
      | .error fault => .unopened fault warnings
      | .ok source =>
        let task : Search.Task := ⟨criteria, settings.embedsImages, world.folder⟩
        let shownSql := if (request.givens.switch? .showSql).isSome then
          [printed statement.sql ++ "\n",
            line ("[dim]params: " ++ (paramsValue statement).quoted ++ "[/dim]")]
          else []
        let outcome := if (request.givens.switch? .json).isSome
          then documentLines criteria (task.stream source.answer carried .empty none)
          else resultTable criteria (task.find source.answer carried .empty)
        { outcome.after [] shownSql with warnings := warnings ++ outcome.warnings }

def countTable (counts : List (String × Nat)) : Table where
  columns := [⟨"Table", .left, none⟩, ⟨"Rows", .right, none⟩]
  rows := counts.map fun (name, n) => [name, toString n]

def countLines (source : Source) : Outcome :=
  match tableNames.mapM fun name => (source.count name).map (name, ·) with
  | .error fault => .failed fault []
  | .ok counts => .done [tableText (countTable counts) (some "Catalog")] [] []

/-- Print the settings and what the catalog holds.  Here a missing catalog is told on the output
channel. -/
def Request.info (request : Request) (world : World) : Outcome :=
  match Settings.load world.environment request.givens.settings with
  | .error fault => .failed fault []
  | .ok settings =>
    let lines : List Printed := [
      .text (line ("[bold]Database:[/bold] " ++ settings.catalog.text)),
      .text (line ("[bold]Language:[/bold] " ++ settings.language)),
      .text (line ("[bold]Embed images:[/bold] " ++ (Value.bool settings.embedsImages).shown))]
    let outcome : Outcome := match world.openCatalog settings.catalog with
      | .error fault =>
        match fault.message? with
        | some message => ⟨1, [.text (line ("[red]" ++ message ++ "[/red]"))], [], [], none⟩
        | none => .failed fault []
      | .ok source => countLines source
    outcome.after lines []

def run (world : World) (arguments : List String) : Outcome :=
  match Request.ofArguments arguments with
  | .error .usage => .misused []
  | .error .path => .failed .malformedPath []
  | .ok request =>
    match request.name with
    | .find => request.find world
    | .sql => request.showSql
    | .info => request.info world

end PhotoCatalog.Command
