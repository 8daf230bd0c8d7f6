import PhotoCatalog.Calendar.Moment

/-!
Dynamic values: what a search is asked with, what the catalog delivers, and what serialized
documents hold.  The entries of a mapping keep their order.
-/

namespace PhotoCatalog

open PhotoCatalog.Calendar

/-- A value of any kind. -/
inductive Value where
  | null
  | bool (b : Bool)
  | int (n : Int)
  | float (x : Float)
  | text (s : String)
  | bytes (data : List UInt8)
  | date (d : Date)
  | moment (m : Moment)
  | list (items : List Value)
  | map (entries : List (String × Value))
deriving Inhabited

def Value.isNull : Value → Bool
  | .null => true
  | _ => false

def Value.isMap : Value → Bool
  | .map _ => true
  | _ => false

/-- Whether the value counts as set: not absent, not false, not zero and not empty. -/
def Value.truthy : Value → Bool
  | .null => false
  | .bool b => b
  | .int n => n != 0
  | .float x => x != 0.0
  | .text s => !s.isEmpty
  | .bytes data => !data.isEmpty
  | .date _ => true
  | .moment _ => true
  | .list items => !items.isEmpty
  | .map entries => !entries.isEmpty

/-- Set an entry of a mapping: an old entry keeps its place, a new one goes to the end. -/
def setEntry {α : Type} (key : String) (value : α) : List (String × α) → List (String × α)
  | [] => [(key, value)]
  | (k, v) :: rest => if k = key then (k, value) :: rest else (k, v) :: setEntry key value rest

/-- The mapping that results from setting entries one after the other. -/
def mapOfEntries {α : Type} (entries : List (String × α)) : List (String × α) :=
  entries.foldl (fun m e => setEntry e.1 e.2 m) []

end PhotoCatalog
