import PhotoCatalog.Json.Reader
import PhotoCatalog.Reading
import PhotoCatalog.Text.Case

/-!
Looking into rows and documents.  Documents come as texts or as values; their keys are found
whatever their case, the exact key first.
-/

namespace PhotoCatalog

open PhotoCatalog.Text

/-- A row of the catalog: columns and their values. -/
abbrev Row := List (String × Value)

/-- The value of a column; null when there is no such column. -/
def Row.get (row : Row) (column : String) : Value := (row.lookup column).getD .null

/-- The entry of a document under a key: an entry of exactly this key, or else the first one whose
key is the same up to case.  What is no mapping has no entries. -/
def Value.entry (document : Value) (key : String) : Value :=
  match document with
  | .map entries =>
    match entries.lookup key with
    | some value => value
    | none => ((entries.find? fun e => lower e.1 == lower key).map (·.2)).getD .null
  | _ => .null

/-- The document that a text spells; a text that spells none counts as absent. -/
def readDocument (name text : String) : Reading Value :=
  if isBlankText text then pure .null
  else match Json.read text with
    | .ok value => pure value
    | .error .malformedDocument => do
      Reading.warn (.document name)
      return .null
    | .error fault => Reading.fail fault

/-- The document that a value holds: a mapping or a list is one, a text or bytes spell one, and
anything else holds none. -/
def loadDocument (name : String) (raw : Value) : Reading Value :=
  match raw with
  | .map _ | .list _ => pure raw
  | .text s => readDocument name s
  | .bytes data => readDocument name (decodeLossy data)
  | _ => pure .null

end PhotoCatalog
