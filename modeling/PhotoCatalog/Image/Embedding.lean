import PhotoCatalog.Image.Base64
import PhotoCatalog.Image.Folder
import PhotoCatalog.Reading

/-!
Embedded images.  The path of an image is replaced by a `data:` address that holds the whole file;
an image that cannot be read keeps its path.
-/

namespace PhotoCatalog.Image

open PhotoCatalog.Address

/-- The kinds of images, by the suffixes of their files. -/
def mimeTypes : List (String × String) := [
  (".jpg", "image/jpeg"), (".jpeg", "image/jpeg"), (".png", "image/png"), (".gif", "image/gif"),
  (".bmp", "image/bmp"), (".webp", "image/webp"), (".tif", "image/tiff"), (".tiff", "image/tiff")]

/-- The kind of an image whose suffix tells none. -/
def defaultMimeType : String := "image/jpeg"

/-- The kind of the image in a file of this name. -/
def mimeType (path : String) : String :=
  (mimeTypes.lookup (PathName.ofText path).suffix).getD defaultMimeType

/-- The address that holds an image of this kind. -/
def dataAddress (mime : String) (data : List UInt8) : String :=
  "data:" ++ mime ++ ";base64," ++ String.ofList (Base64.encode data)

/-- The address that holds the image at a path, or with a warning the path itself. -/
def embed (folder : Folder) (path : String) : Reading String :=
  if PathName.isMalformed path then Reading.fail .malformedPath
  else match folder.read (PathName.ofText path) with
    | .ok data => pure (dataAddress (mimeType path) data)
    | .error _ => do
      Reading.warn (.embedding path)
      return path

end PhotoCatalog.Image
