import PhotoCatalog.Pattern.Like
import PhotoCatalog.Text.Case
import PhotoCatalog.Text.Utf8

/-!
Matching.  Shell patterns and `LIKE` patterns are both read into a list of elements, and one matcher
answers for both: it walks along the pattern and keeps, for each suffix of the text, whether the
elements so far can leave exactly that suffix.
-/

namespace PhotoCatalog.Pattern

open PhotoCatalog.Text

/-- One element of a pattern. -/
inductive Element where
  | anyRun
  | anyChar
  | literal (c : Char)
deriving Repr, DecidableEq

/-- The element that a character of a shell pattern stands for. -/
def Element.ofShellChar (c : Char) : Element :=
  if c = '*' then .anyRun else if c = '?' then .anyChar else .literal c

def shellElements (token : List Char) : List Element := token.map Element.ofShellChar

/-- The elements of a `LIKE` pattern; none when an escape character has nothing to escape. -/
def likeElements : List Char → Option (List Element)
  | [] => some []
  | c :: rest =>
    if c = escapeChar then
      match rest with
      | [] => none
      | d :: rest => (likeElements rest).map (.literal d :: ·)
    else
      let element : Element := if c = '%' then .anyRun else if c = '_' then .anyChar else .literal c
      (likeElements rest).map (element :: ·)

/-- The marks after an element that takes exactly one character: the suffix after a marked suffix is
marked when `takes` accepts the character between them. -/
def marksAfterChar (takes : Char → Bool) : Bool → List Char → List Bool → List Bool
  | carried, c :: text, mark :: marks =>
    carried :: marksAfterChar takes (mark && takes c) text marks
  | carried, _, _ => [carried]

/-- The marks after an element that takes any run: every suffix of a marked suffix is marked. -/
def marksAfterRun : Bool → List Bool → List Bool
  | _, [] => []
  | carried, mark :: marks => (carried || mark) :: marksAfterRun (carried || mark) marks

/-- The marks after one element. -/
def stepMarks (same : Char → Char → Bool) (text : List Char) (marks : List Bool) :
    Element → List Bool
  | .anyRun => marksAfterRun false marks
  | .anyChar => marksAfterChar (fun _ => true) false text marks
  | .literal c => marksAfterChar (same c) false text marks

/-- Whether the elements, one after the other, take the whole text; `same` says which characters of
the text a literal character accepts. -/
def matchesElements (same : Char → Char → Bool) (elements : List Element) (text : List Char) :
    Bool :=
  let start := true :: text.map fun _ => false
  (elements.foldl (stepMarks same text) start).getLastD false

/-- Whether two characters are the same up to one-to-one case equivalence. -/
def sameKey (c d : Char) : Bool := caseKey c == caseKey d

/-- Whether two characters are the same up to the case of ASCII letters. -/
def sameAscii (c d : Char) : Bool := asciiLower c == asciiLower d

/-- Whether a value satisfies a token: a token without wildcards is compared up to full case
folding, others match the whole value character by character.  An absent value satisfies none. -/
def wildcardMatch (token : String) : Option String → Bool
  | none => false
  | some value =>
    if hasWildcards token then matchesElements sameKey (shellElements token.toList) value.toList
    else folded token == folded value

/-- Whether the `LIKE` pattern that characters spell accepts other ones: case counts only beyond
ASCII. -/
def likeAccepts (pattern text : List Char) : Bool :=
  match likeElements pattern with
  | none => false
  | some elements => matchesElements sameAscii elements text

/-- What stands before the first NUL character, which ends a text for the catalog's comparisons. -/
def beforeNul (cs : List Char) : List Char := cs.takeWhile fun c => c.toNat ≠ 0

/-- A character as the catalog's `LIKE` reads it: the two noncharacters at the end of the basic
plane count as the replacement character. -/
def likeChar (c : Char) : Char :=
  if c.toNat = 0xFFFE ∨ c.toNat = 0xFFFF then replacement else c

/-- The characters that the catalog's `LIKE` sees in a text. -/
def likeChars (text : String) : List Char := (beforeNul text.toList).map likeChar

def likeMatch (pattern text : String) : Bool := likeAccepts (likeChars pattern) (likeChars text)

/-- Whether the catalog's comparison without case accepts a text.  Behind a NUL character only the
length counts. -/
def equalNoCase (s t : String) : Bool :=
  s.utf8ByteSize == t.utf8ByteSize
    && (beforeNul s.toList).map asciiLower == (beforeNul t.toList).map asciiLower

end PhotoCatalog.Pattern
