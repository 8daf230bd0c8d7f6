import PhotoCatalog.Text.Span
import PhotoCatalog.Text.CaseTable

/-!
Letter case.  `lower`, `upper` and `folded` are the full mappings of texts, where one character may
become several; `caseKey` names the class of a character under one-to-one case equivalence, so two
characters are the same up to case when their keys agree.  ASCII letters come first in every
definition: their rules need no table.
-/

namespace PhotoCatalog.Text

/-- The lower case of an ASCII letter; every other character as it is. -/
def asciiLower (c : Char) : Char :=
  if 'A' ≤ c ∧ c ≤ 'Z' then Char.ofNat (c.toNat + 32) else c

/-- The upper case of an ASCII letter; every other character as it is. -/
def asciiUpper (c : Char) : Char :=
  if 'a' ≤ c ∧ c ≤ 'z' then Char.ofNat (c.toNat - 32) else c

/-- The image of a character under a table of runs and of longer images. -/
def fullMap (runs : List CaseRun) (long : List (Nat × List Nat)) (c : Char) : List Char :=
  match long.lookup c.toNat with
  | some image => image.map Char.ofNat
  | none => [mapByRuns runs c]

/-- The lower case of one character, whatever stands around it. -/
def lowerChar (c : Char) : List Char :=
  if c.toNat < 128 then [asciiLower c] else fullMap lowerRuns lowerLong c

def upperChar (c : Char) : List Char :=
  if c.toNat < 128 then [asciiUpper c] else fullMap upperRuns upperLong c

def foldChar (c : Char) : List Char :=
  if c.toNat < 128 then [asciiLower c] else fullMap foldRuns foldLong c

/-- Whether a word goes on at the head of the list: its first character that is not case-ignorable
is cased. -/
def wordGoesOn (cs : List Char) : Bool :=
  match cs.dropWhile (inSpans ignorableSpans) with
  | [] => false
  | c :: _ => inSpans casedSpans c

/-- The lower case of a list of characters; `before` holds what precedes it, nearest first.  A
capital sigma at the end of a word becomes the final sigma. -/
def lowerAfter (before : List Char) : List Char → List Char
  | [] => []
  | c :: rest =>
    if c.toNat = 0x3A3 then
      let small := if wordGoesOn before && !wordGoesOn rest then 0x3C2 else 0x3C3
      Char.ofNat small :: lowerAfter (c :: before) rest
    else lowerChar c ++ lowerAfter (c :: before) rest

def lower (text : String) : String := String.ofList (lowerAfter [] text.toList)

def upper (text : String) : String := String.ofList (text.toList.flatMap upperChar)

/-- The case folding of a text: two texts are the same up to case when their foldings agree. -/
def folded (text : String) : List Char := text.toList.flatMap foldChar

/-- The character that names the one-to-one case class of a character. -/
def caseKey (c : Char) : Char :=
  if c.toNat < 128 then asciiLower c else mapByRuns keyRuns c

end PhotoCatalog.Text
