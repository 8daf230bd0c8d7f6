import PhotoCatalog.Fault

/-!
Reading with warnings.  Something unusable that is found on the way is noted and treated as absent;
only a fault ends the reading, and the warnings noted before it stay.
-/

namespace PhotoCatalog

/-- Something unusable that was treated as absent. -/
inductive Warning where
  /-- A document that is no JSON text, with its name. -/
  | document (name : String)
  /-- A value that does not fit its place. -/
  | value (place : String)
  /-- A list of keywords or of faces that is none. -/
  | keywords
  /-- A box with a corner that is no whole number. -/
  | box
  /-- An image that cannot be read, with its path. -/
  | embedding (path : String)
deriving Repr, DecidableEq

/-- What reading comes to: the warnings, first one first, and a result unless a fault ended it. -/
structure Reading (α : Type) where
  warnings : List Warning
  result : Except Fault α

namespace Reading

def done {α : Type} (a : α) : Reading α := ⟨[], .ok a⟩

def fail {α : Type} (fault : Fault) : Reading α := ⟨[], .error fault⟩

def warn (warning : Warning) : Reading Unit := ⟨[warning], .ok ()⟩

def andThen {α β : Type} (first : Reading α) (next : α → Reading β) : Reading β :=
  match first.result with
  | .ok a => ⟨first.warnings ++ (next a).warnings, (next a).result⟩
  | .error fault => ⟨first.warnings, .error fault⟩

instance : Monad Reading where
  pure := done
  bind := andThen

def ofExcept {α : Type} (result : Except Fault α) : Reading α := ⟨[], result⟩

end Reading

/-- Whether a fault only means that a value does not fit its place.  A number beyond the doubles is
not such a fault. -/
def Fault.isMisfit : Fault → Bool
  | .wrongKind | .malformedNumber | .malformedDocument => true
  | _ => false

/-- A value converted for its place: null stands for nothing, and so does, with a warning, a value
that does not fit. -/
def usable {α : Type} (convert : Value → Except Fault α) (place : String) (value : Value) :
    Reading (Option α) :=
  match value with
  | .null => pure none
  | value =>
    match convert value with
    | .ok a => pure (some a)
    | .error fault =>
      if fault.isMisfit then do
        Reading.warn (.value place)
        return none
      else Reading.fail fault

end PhotoCatalog
