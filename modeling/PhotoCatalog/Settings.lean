import PhotoCatalog.Address.PathName
import PhotoCatalog.Fault
import PhotoCatalog.Text.Blank

/-!
Settings of a search: which catalog, which language, whether images are embedded, and what is
logged.  What a command says goes first, then the environment, then the defaults.
-/

namespace PhotoCatalog

open PhotoCatalog.Address PhotoCatalog.Text

/-- What surrounds a command: its variables, and the home directories of users, of which the one
without a name is that of the user who runs it. -/
structure Environment where
  vars : List (String × String)
  homes : List (String × String)

/-- The value of a variable; empty when it is not set. -/
def Environment.get (env : Environment) (name : String) : String :=
  (env.vars.lookup name).getD ""

/-- A path name in which a leading tilde, alone or with the name of a user, stands for a home
directory. -/
def Environment.expand (env : Environment) (path : PathName) : Except Fault PathName :=
  match path.root, path.parts with
  | "", first :: rest =>
    match first.toList with
    | '~' :: user =>
      match env.homes.lookup (String.ofList user) with
      | some home => .ok (PathName.ofText (home ++ "/" ++ "/".intercalate rest))
      | none => .error .unknownHome
    | _ => .ok path
  | _, _ => .ok path

/-- The settings of a search. -/
structure Settings where
  catalog : PathName
  language : String
  embedsImages : Bool
  logLevel : String
deriving Repr, DecidableEq

structure SettingsChoice where
  catalog : Option PathName
  language : Option String
  embedsImages : Option Bool

/-- The catalog of a language, where none is named. -/
def Environment.defaultCatalog (env : Environment) (language : String) : PathName :=
  let home := (env.homes.lookup "").getD ""
  PathName.ofText (home ++ "/.cache/imgquery/images." ++ language ++ ".db")

/-- A text, unless it is empty. -/
def filled? (text : String) : Option String := if text.isEmpty then none else some text

def switchWords : List String := ["1", "true", "yes", "on"]

/-- The language that a command or its environment asks for. -/
def Environment.language (env : Environment) (choice : Option String) : String :=
  let asked := (choice.bind filled?).getD ((filled? (env.get "IMGQUERY_LANGUAGE")).getD "en")
  lower (trim asked)

/-- The catalog that a command or its environment asks for. -/
def Environment.catalog (env : Environment) (choice : Option PathName) (language : String) :
    Except Fault PathName :=
  match choice, filled? (env.get "IMGQUERY_DB_PATH") with
  | some path, _ => .ok path
  | none, some text => env.expand (PathName.ofText text)
  | none, none => .ok (env.defaultCatalog language)

def Environment.logLevel (env : Environment) : String :=
  (filled? (upper (trim (env.get "IMGQUERY_LOG_LEVEL")))).getD "WARNING"

def Settings.load (env : Environment) (choice : SettingsChoice) : Except Fault Settings := do
  let language := env.language choice.language
  let catalog ← env.catalog choice.catalog language
  let switched := switchWords.contains (lower (trim (env.get "IMGQUERY_EMBED_IMAGES")))
  return ⟨catalog, language, choice.embedsImages.getD switched, env.logLevel⟩

def logLevels : List String :=
  ["CRITICAL", "FATAL", "ERROR", "WARN", "WARNING", "INFO", "DEBUG", "NOTSET"]

/-- Check that there is a log level of a name. -/
def checkLogLevel (name : String) : Except Fault Unit :=
  if logLevels.contains name then .ok () else .error (.unknownLogLevel name)

end PhotoCatalog
