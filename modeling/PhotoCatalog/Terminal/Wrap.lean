import PhotoCatalog.Text.Blank
import PhotoCatalog.Text.CellWidth

/-!
Lines of a given width.  A text is broken at its line feeds and between words; a word that is too
long for a line is cut off with an ellipsis.
-/

namespace PhotoCatalog.Terminal

open PhotoCatalog.Text

/-- Whether a character steers the terminal instead of showing something. -/
def isControl (c : Char) : Bool := [7, 8, 11, 12, 13].contains c.toNat

/-- The pieces of a list between the elements that satisfy `p`. -/
def splitBy {α : Type} (p : α → Bool) : List α → List (List α)
  | [] => [[]]
  | a :: rest =>
    if p a then [] :: splitBy p rest
    else match splitBy p rest with
      | [] => [[a]]
      | piece :: more => (a :: piece) :: more

def linesOf (text : String) : List (List Char) :=
  splitBy (· == '\n') (text.toList.filter (!isControl ·))

/-- A line in which every tab reaches to the next multiple of eight cells; `column` is where the
line begins. -/
def expandTabs (column : Nat) : List Char → List Char
  | [] => []
  | c :: rest =>
    if c = '\t' then
      let spaces := 8 - column % 8
      List.replicate spaces ' ' ++ expandTabs (column + spaces) rest
    else c :: expandTabs (column + cellWidth c) rest

/-- Whether a character ends a line where the width of a text is measured. -/
def endsLine (c : Char) : Bool :=
  c == '\n' || (28 ≤ c.toNat && c.toNat ≤ 30) || c.toNat == 0x85 || c.toNat == 0x2028
    || c.toNat == 0x2029

/-- The width of a text: that of its longest line. -/
def widthOf (text : String) : Nat :=
  let lines := splitBy endsLine (text.toList.filter (!isControl ·))
  (lines.map cellsOf).foldl max 0

/-- The words of a line, each with the blanks behind it, the first one also with those before it; a
line of blanks has none.  `fuel` bounds the number of words. -/
def wordsFrom : Nat → List Char → List (List Char)
  | 0, _ => []
  | fuel + 1, cs =>
    let front := cs.takeWhile isBlank
    let rest := cs.dropWhile isBlank
    let word := rest.takeWhile (!isBlank ·)
    let rest := rest.dropWhile (!isBlank ·)
    if word.isEmpty then []
    else (front ++ word ++ rest.takeWhile isBlank) :: wordsFrom fuel (rest.dropWhile isBlank)

/-- The words of a line, of which there are at most as many as characters. -/
def wordsOf (line : List Char) : List (List Char) := wordsFrom line.length line

def dropBlanks (cs : List Char) : List Char := (cs.reverse.dropWhile isBlank).reverse

/-- Put words on lines of a width.  `used` counts the cells of the current line, `current`, to which
the next word is added where it fits, its blanks apart, or where the line is empty. -/
def fillLines (width used : Nat) (current : List Char) : List (List Char) → List (List Char)
  | [] => [current]
  | word :: rest =>
    let need := cellsOf (dropBlanks word)
    let cells := cellsOf word
    if used + need ≤ width then fillLines width (used + cells) (current ++ word) rest
    else if current.isEmpty then fillLines width cells word rest
    else current :: fillLines width cells word rest

/-- Remove as many blanks at the end of a line as it has characters too many. -/
def trimEnd (width : Nat) (line : List Char) : List Char :=
  let blanks := line.length - (dropBlanks line).length
  line.take (line.length - min blanks (line.length - width))

/-- A front part of a line that fills a number of cells, filled up where half of a wide character
would remain.  Characters without a width make several parts fill the same cells; the one is taken
that halving meets first, from the lengths between `low` and `high`.  `fuel` bounds the
halvings. -/
def cutBetween (cells : Nat) (line : List Char) : Nat → Nat → Nat → List Char
  | 0, _, _ => []
  | fuel + 1, low, high =>
    let middle := (low + high) / 2
    let front := line.take (middle + 1)
    let used := cellsOf front
    let lastIsWide := (front.getLast?.map cellWidth) == some 2
    if used = cells + 1 ∧ lastIsWide then front.dropLast ++ [' ']
    else if used = cells then front
    else if cells < used then cutBetween cells line fuel low middle
    else cutBetween cells line fuel middle high

/-- A front part of a line that fills a number of cells. -/
def cutCells (cells : Nat) (line : List Char) : List Char :=
  if cells = 0 then [] else cutBetween cells line (line.length + 1) 0 line.length

/-- A line cut off with an ellipsis where it is too long. -/
def truncate (width : Nat) (line : List Char) : List Char :=
  if width < cellsOf line then cutCells (width - 1) line ++ ['…'] else line

inductive Alignment where
  | left | right | center
deriving Repr, DecidableEq

def align (alignment : Alignment) (width : Nat) (line : List Char) : List Char :=
  match alignment with
  | .left =>
    let line := truncate width line
    line ++ List.replicate (width - cellsOf line) ' '
  | .right =>
    let line := truncate width (dropBlanks line)
    List.replicate (width - cellsOf line) ' ' ++ line
  | .center =>
    let line := truncate width (dropBlanks line)
    let before := (width - cellsOf line) / 2
    List.replicate before ' ' ++ line ++ List.replicate (width - cellsOf line - before) ' '

/-- A line of a text as lines of a width. -/
def wrapLine (alignment : Alignment) (width : Nat) (line : List Char) : List (List Char) :=
  let line := expandTabs 0 line
  let words := wordsOf line
  let lines := if words.isEmpty then [line] else fillLines width 0 [] words
  lines.map fun line => align alignment width (trimEnd width line)

def wrap (alignment : Alignment) (width : Nat) (text : String) : List String :=
  ((linesOf text).flatMap (wrapLine alignment width)).map String.ofList

/-- A text as it is printed: without controls, and with tabs expanded. -/
def printed (text : String) : String :=
  "\n".intercalate ((linesOf text).map fun line => String.ofList (expandTabs 0 line))

end PhotoCatalog.Terminal
