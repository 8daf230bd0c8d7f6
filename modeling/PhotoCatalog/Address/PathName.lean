import PhotoCatalog.Text.Case
import PhotoCatalog.Address.Host

/-!
Names of files.  A path name is a root and components; empty components and single points say
nothing and are left out, two points stay.
-/

namespace PhotoCatalog.Address

open PhotoCatalog.Text

/-- The name of a file or a folder.  The root is empty for names relative to the working
directory. -/
structure PathName where
  root : String
  parts : List String
deriving Repr, DecidableEq

namespace PathName

/-- The root of a path name: one slash, or exactly two. -/
def rootOf : List Char → String
  | ['/', '/'] => "//"
  | '/' :: '/' :: c :: _ => if c = '/' then "/" else "//"
  | '/' :: _ => "/"
  | _ => ""

def isPart (cs : List Char) : Bool := !cs.isEmpty && cs != ['.']

def ofText (text : String) : PathName :=
  let cs := text.toList
  ⟨rootOf cs, ((pieces '/' cs).filter isPart).map String.ofList⟩

/-- The text of a path name; the working directory itself is a single point. -/
def text (p : PathName) : String :=
  let text := p.root ++ "/".intercalate p.parts
  if text.isEmpty then "." else text

def name (p : PathName) : String := p.parts.getLastD ""

/-- What follows the last point of a component together with the point, unless it begins or ends the
component. -/
def suffixOf (cs : List Char) : List Char :=
  let back := cs.reverse.takeWhile (· ≠ '.')
  if back.isEmpty || cs.length ≤ back.length + 1 then [] else '.' :: back.reverse

/-- The suffix of a path name, in lower case. -/
def suffix (p : PathName) : String := lower (String.ofList (suffixOf p.name.toList))

/-- Whether a path name holds a character that no file can have in its name. -/
def isMalformed (text : String) : Bool := text.toList.any (·.toNat == 0)

end PathName

end PhotoCatalog.Address
