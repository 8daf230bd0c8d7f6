import PhotoCatalog.Value.Basic
import PhotoCatalog.Number.Decimal
import PhotoCatalog.Text.Quoted

/-!
Writing JSON texts.  A comma and a colon are followed by a space; texts escape quotes, backslashes
and control characters, and in ASCII whatever lies beyond it; a double has the fewest digits that
read back.
-/

namespace PhotoCatalog.Json

open PhotoCatalog.Number PhotoCatalog.Text

/-- The written form of a code unit. -/
def escapedUnit (unit : Nat) : List Char := '\\' :: 'u' :: hexPadded 4 unit

def escapedChar (c : Char) : List Char :=
  if c = '"' ∨ c = '\\' then ['\\', c]
  else if c = '\n' then ['\\', 'n']
  else if c = '\r' then ['\\', 'r']
  else if c = '\t' then ['\\', 't']
  else if c.toNat = 8 then ['\\', 'b']
  else if c.toNat = 12 then ['\\', 'f']
  else if c.toNat < 32 then escapedUnit c.toNat
  else [c]

/-- The written form of one character in a text of printable ASCII; beyond the first plane it has
two code units. -/
def asciiEscapedChar (c : Char) : List Char :=
  if c.toNat < 127 then escapedChar c
  else if c.toNat < 0x10000 then escapedUnit c.toNat
  else
    escapedUnit (0xD800 + (c.toNat - 0x10000) / 1024) ++
      escapedUnit (0xDC00 + (c.toNat - 0x10000) % 1024)

/-- A text in quotes, its characters written by `escape`. -/
def writeTextWith (escape : Char → List Char) (s : String) : String :=
  String.ofList ('"' :: s.toList.flatMap escape ++ ['"'])

def writeText (s : String) : String := writeTextWith escapedChar s

/-- Doubles in documents. -/
def documentStyle : Style := ⟨-4, 15, false, "NaN", "Infinity"⟩

section

variable (escape : Char → List Char)

mutual

/-- The written form of a value.  Bytes, days and moments, which documents do not know, are written
as texts. -/
def writeWith : Value → String
  | .null => "null"
  | .bool b => if b then "true" else "false"
  | .int n => toString n
  | .float x => shortest documentStyle x
  | .text s => writeTextWith escape s
  | .bytes data => writeTextWith escape (quotedBytes data)
  | .date d => writeTextWith escape d.text
  | .moment m => writeTextWith escape (m.text "T")
  | .list items => "[" ++ ", ".intercalate (writeItemsWith items) ++ "]"
  | .map entries => "\x7b" ++ ", ".intercalate (writeEntriesWith entries) ++ "\x7d"

def writeItemsWith : List Value → List String
  | [] => []
  | v :: rest => writeWith v :: writeItemsWith rest

def writeEntriesWith : List (String × Value) → List String
  | [] => []
  | (k, v) :: rest => (writeTextWith escape k ++ ": " ++ writeWith v) :: writeEntriesWith rest

end

end

/-- The written form of a value, as documents are printed. -/
def write (v : Value) : String := writeWith escapedChar v

/-- The written form of a value in printable ASCII. -/
def writeAscii (v : Value) : String := writeWith asciiEscapedChar v

end PhotoCatalog.Json
