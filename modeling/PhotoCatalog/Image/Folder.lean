import PhotoCatalog.Address.PathName
import PhotoCatalog.Fault

/-!
The files that a search can read, by the names that lead to them.  A name leads from folder to
folder, beginning at the working directory or at the root of all files.
-/

namespace PhotoCatalog.Image

open PhotoCatalog.Address

/-- Files by their names.  The names hold no two points. -/
structure Folder where
  files : List (PathName × List UInt8)

namespace Folder

def ofList (files : List (String × List UInt8)) : Folder :=
  ⟨files.map fun (name, data) => (PathName.ofText name, data)⟩

def file? (folder : Folder) (place : PathName) : Option (List UInt8) := folder.files.lookup place

/-- Whether a place is where names begin or lies above. -/
def isOutset (place : PathName) : Bool := place.parts.all (· == "..")

/-- Whether a place is a folder: some file lies below it, or it is where names begin or lies
above. -/
def isFolder (folder : Folder) (place : PathName) : Bool :=
  isOutset place || folder.files.any fun (name, _) =>
    place.root == name.root && place.parts.isPrefixOf name.parts && place != name

/-- The greatest size in bytes of a component of a name. -/
def componentLimit : Nat := 255

/-- The greatest size in bytes of a whole name. -/
def nameLimit : Nat := 4095

/-- Where components lead, from a place on; two points lead out of a folder.  Above the working
directory only folders are known, and above the root of all files lies the root. -/
def walk (folder : Folder) (place : PathName) : List String → Except OpenFault PathName
  | [] => .ok place
  | part :: rest =>
    if !folder.isFolder place then
      .error (if (folder.file? place).isSome then .notAFolder else .missing)
    else if part = ".." then
      if place.root.isEmpty && isOutset place then
        folder.walk { place with parts := place.parts ++ [part] } rest
      else folder.walk { place with parts := place.parts.dropLast } rest
    else if componentLimit < part.utf8ByteSize then .error .nameTooLong
    else folder.walk { place with parts := place.parts ++ [part] } rest

/-- The place that a path name leads to. -/
def place (folder : Folder) (path : PathName) : Except OpenFault PathName :=
  if nameLimit < path.text.utf8ByteSize then .error .nameTooLong
  else folder.walk ⟨path.root, []⟩ path.parts

/-- The bytes of the file that a path name names. -/
def read (folder : Folder) (path : PathName) : Except OpenFault (List UInt8) := do
  let place ← folder.place path
  match folder.file? place with
  | some data => return data
  | none => throw (if folder.isFolder place then .isAFolder else .missing)

end Folder

end PhotoCatalog.Image
