/-!
Blank characters, and the trimming of texts.  `isBlank` is the wide set used for texts that people
type: ASCII white space, the four information separators, and the Unicode spaces and line ends.
-/

namespace PhotoCatalog.Text

/-- ASCII white space: tab, line feed, vertical tab, form feed, carriage return and space. -/
def isAsciiBlank (c : Char) : Bool :=
  (9 ≤ c.toNat && c.toNat ≤ 13) || c.toNat == 32

def isBlank (c : Char) : Bool :=
  isAsciiBlank c || (28 ≤ c.toNat && c.toNat ≤ 31) || c.toNat == 0x85 || c.toNat == 0xA0
    || c.toNat == 0x1680 || (0x2000 ≤ c.toNat && c.toNat ≤ 0x200A) || c.toNat == 0x2028
    || c.toNat == 0x2029 || c.toNat == 0x202F || c.toNat == 0x205F || c.toNat == 0x3000

/-- A list without the elements at both ends that satisfy `p`. -/
def trimBy {α : Type} (p : α → Bool) (xs : List α) : List α :=
  ((xs.dropWhile p).reverse.dropWhile p).reverse

def trim (text : String) : String :=
  String.ofList (trimBy isBlank text.toList)

def isBlankText (text : String) : Bool :=
  text.toList.all isBlank

end PhotoCatalog.Text
