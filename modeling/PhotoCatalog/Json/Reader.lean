import PhotoCatalog.Fault
import PhotoCatalog.Number.Numeral
import PhotoCatalog.Address.FileUri

/-!
Reading JSON texts.  Beyond the standard, `NaN`, `Infinity` and `-Infinity` are numbers.  A number
with a fraction or an exponent is a double, any other one a whole number of any size up to the
digit limit.  A key that is repeated keeps its first place and takes its last value.  Lists and
mappings may be nested up to a limit.
-/

namespace PhotoCatalog.Json

open PhotoCatalog.Number PhotoCatalog.Text

/-- Whether a character is white space between the tokens of a document. -/
def isSpace (c : Char) : Bool := c == ' ' || c == '\t' || c == '\n' || c == '\r'

def skipSpace (cs : List Char) : List Char := cs.dropWhile isSpace

def codeUnit? (a b c d : Char) : Option Nat := do
  let high := 16 * (← Address.hexValue? a) + (← Address.hexValue? b)
  let low := 16 * (← Address.hexValue? c) + (← Address.hexValue? d)
  return 256 * high + low

/-- Whether a code unit is the first half of a pair. -/
def isHighHalf (unit : Nat) : Bool := 0xD800 ≤ unit && unit < 0xDC00

/-- Whether a code unit is the second half of a pair. -/
def isLowHalf (unit : Nat) : Bool := 0xDC00 ≤ unit && unit < 0xE000

/-- The character of a single code unit; half of a pair by itself stands for no character. -/
def unitChar (unit : Nat) : Char :=
  if isHighHalf unit || isLowHalf unit then replacement else Char.ofNat unit

/-- The character of a pair of code units. -/
def pairChar (high low : Nat) : Char :=
  Char.ofNat (0x10000 + (high - 0xD800) * 1024 + (low - 0xDC00))

/-- The character that a one-letter escape stands for. -/
def simpleEscape? (c : Char) : Option Char :=
  if c = '"' ∨ c = '\\' ∨ c = '/' then some c
  else if c = 'b' then some (Char.ofNat 8)
  else if c = 'f' then some (Char.ofNat 12)
  else if c = 'n' then some '\n'
  else if c = 'r' then some '\r'
  else if c = 't' then some '\t'
  else none

/-- Read the characters of a text up to its closing quote. -/
def readChars : List Char → Option (List Char × List Char)
  | [] => none
  | '"' :: rest => some ([], rest)
  | '\\' :: 'u' :: a :: b :: c :: d :: rest => do
    let unit ← codeUnit? a b c d
    if isHighHalf unit then
      match rest with
      | '\\' :: 'u' :: e :: f :: g :: h :: more =>
        let next ← codeUnit? e f g h
        if isLowHalf next then
          let (cs, tail) ← readChars more
          return (pairChar unit next :: cs, tail)
        else
          let (cs, tail) ← readChars ('\\' :: 'u' :: e :: f :: g :: h :: more)
          return (unitChar unit :: cs, tail)
      | rest =>
        let (cs, tail) ← readChars rest
        return (unitChar unit :: cs, tail)
    else
      let (cs, tail) ← readChars rest
      return (unitChar unit :: cs, tail)
  | '\\' :: c :: rest => do
    let c ← simpleEscape? c
    let (cs, tail) ← readChars rest
    return (c :: cs, tail)
  | c :: rest =>
    if c = '\\' ∨ c.toNat < 32 then none
    else do
      let (cs, tail) ← readChars rest
      return (c :: cs, tail)
termination_by cs => cs.length

/-- Read a text behind its opening quote. -/
def readText (cs : List Char) : Except Fault (String × List Char) :=
  match readChars cs with
  | some (chars, rest) => .ok (String.ofList chars, rest)
  | none => .error .malformedDocument

/-- Read a fraction: a point and at least one digit.  Without it nothing is read. -/
def readFraction : List Char → List Nat × List Char
  | '.' :: rest =>
    match takeDigits rest with
    | ([], _) => ([], '.' :: rest)
    | (digits, rest) => (digits, rest)
  | cs => ([], cs)

/-- Read an exponent: its letter, perhaps a sign, and at least one digit.  Without it nothing is
read. -/
def readExponent : List Char → Option Int × List Char
  | [] => (none, [])
  | c :: rest =>
    if c = 'e' ∨ c = 'E' then
      let (negative, tail) := takeSign rest
      match takeDigits tail with
      | ([], _) => (none, c :: rest)
      | (ds, tail) => (some (if negative then -(ofDigits ds : Int) else ofDigits ds), tail)
    else (none, c :: rest)

/-- Read the digits of the whole part of a number: a zero alone, or digits that begin with another
one. -/
def readWhole : List Char → Option (List Nat × List Char)
  | '0' :: rest => some ([0], rest)
  | cs =>
    match takeDigits cs with
    | ([], _) => none
    | (digits, rest) => some (digits, rest)

/-- Read an unsigned number; `negative` tells its sign. -/
def readNumber (negative : Bool) (cs : List Char) : Except Fault (Value × List Char) :=
  match readWhole cs with
  | none => .error .malformedDocument
  | some (whole, rest) =>
    let (fraction, rest) := readFraction rest
    let (exponent, rest) := readExponent rest
    if fraction.isEmpty && exponent.isNone then
      if maxDigits < whole.length then .error .malformedNumber
      else
        let size : Int := ofDigits whole
        .ok (.int (if negative then -size else size), rest)
    else
      let size := ofDecimal (ofDigits (whole ++ fraction)) (exponent.getD 0 - fraction.length)
      .ok (.float (if negative then -size else size), rest)

def takeWord (word : List Char) (cs : List Char) : Option (List Char) :=
  if cs.take word.length = word then some (cs.drop word.length) else none

def readWord (cs : List Char) : Option (Value × List Char) :=
  let words : List (String × Value) :=
    [("null", .null), ("true", .bool true), ("false", .bool false), ("NaN", .float undefined),
     ("Infinity", .float infinity), ("-Infinity", .float (-infinity))]
  words.findSome? fun (word, value) => (takeWord word.toList cs).map (value, ·)

/-- Read a value that is neither a list nor a mapping. -/
def readAtom (cs : List Char) : Except Fault (Value × List Char) :=
  match cs with
  | '"' :: rest => (readText rest).map fun (s, rest) => (.text s, rest)
  | cs =>
    match readWord cs with
    | some answer => .ok answer
    | none =>
      match cs with
      | '-' :: rest => readNumber true rest
      | cs => readNumber false cs

/-- Read the quote that opens a key. -/
def readKey (cs : List Char) : Except Fault (String × List Char) :=
  match cs with
  | '"' :: rest => do
    let (key, rest) ← readText rest
    match skipSpace rest with
    | ':' :: rest => .ok (key, skipSpace rest)
    | _ => .error .malformedDocument
  | _ => .error .malformedDocument

/-- How many lists and mappings may be nested in each other. -/
def nestingLimit : Nat := 990

/-- The levels that are left behind the opening of a list or a mapping. -/
def enter : Nat → Except Fault Nat
  | 0 => .error .nestedTooDeeply
  | room + 1 => .ok room

mutual

/-- Read a value; `room` counts the levels that may still be entered. -/
def readValue : Nat → Nat → List Char → Except Fault (Value × List Char)
  | 0, _, _ => .error .malformedDocument
  | fuel + 1, room, cs =>
    match cs with
    | '[' :: rest => do
      let room ← enter room
      match skipSpace rest with
      | ']' :: rest => return (.list [], rest)
      | rest =>
        let (items, rest) ← readItems fuel room rest
        return (.list items, rest)
    | '\x7b' :: rest => do
      let room ← enter room
      match skipSpace rest with
      | '\x7d' :: rest => return (.map [], rest)
      | rest =>
        let (entries, rest) ← readEntries fuel room rest
        return (.map (mapOfEntries entries), rest)
    | cs => readAtom cs

/-- Read the items of a list up to its closing bracket. -/
def readItems : Nat → Nat → List Char → Except Fault (List Value × List Char)
  | 0, _, _ => .error .malformedDocument
  | fuel + 1, room, cs => do
    let (item, rest) ← readValue fuel room cs
    match skipSpace rest with
    | ',' :: rest =>
      let (items, rest) ← readItems fuel room (skipSpace rest)
      return (item :: items, rest)
    | ']' :: rest => return ([item], rest)
    | _ => .error .malformedDocument

/-- Read the entries of a mapping up to its closing brace. -/
def readEntries : Nat → Nat → List Char → Except Fault (List (String × Value) × List Char)
  | 0, _, _ => .error .malformedDocument
  | fuel + 1, room, cs => do
    let (key, rest) ← readKey cs
    let (value, rest) ← readValue fuel room rest
    match skipSpace rest with
    | ',' :: rest =>
      let (entries, rest) ← readEntries fuel room (skipSpace rest)
      return ((key, value) :: entries, rest)
    | '\x7d' :: rest => return ([(key, value)], rest)
    | _ => .error .malformedDocument

end

/-- The value that a document spells.  Every call of the readers consumes a character or leads to
one that does, so twice the length of the text bounds their nesting. -/
def read (text : String) : Except Fault Value := do
  let cs := text.toList
  let (value, rest) ← readValue (2 * cs.length + 2) nestingLimit (skipSpace cs)
  if (skipSpace rest).isEmpty then return value else .error .malformedDocument

end PhotoCatalog.Json
