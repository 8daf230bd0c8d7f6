import PhotoCatalog.Text.Span
import PhotoCatalog.Text.PrintableTable

/-!
Quoted texts, as they stand in messages and in lists: apostrophes around the text, or double quotes
when the text holds an apostrophe and no double quote; the quote, the backslash and everything that
cannot be printed is escaped.
-/

namespace PhotoCatalog.Text

/-- Whether a character can be printed as it is. -/
def isPrintable (c : Char) : Bool :=
  if c.toNat < 128 then 32 ≤ c.toNat && c.toNat < 127 else inSpans printableSpans c

/-- The lower case hexadecimal digits of a number, filled with zeros to `width` places. -/
def hexPadded (width n : Nat) : List Char :=
  let digits := Nat.toDigits 16 n
  List.replicate (width - digits.length) '0' ++ digits

def quotedChar (quote c : Char) : List Char :=
  if c = quote ∨ c = '\\' then ['\\', c]
  else if c = '\n' then ['\\', 'n']
  else if c = '\r' then ['\\', 'r']
  else if c = '\t' then ['\\', 't']
  else if isPrintable c then [c]
  else if c.toNat < 0x100 then '\\' :: 'x' :: hexPadded 2 c.toNat
  else if c.toNat < 0x10000 then '\\' :: 'u' :: hexPadded 4 c.toNat
  else '\\' :: 'U' :: hexPadded 8 c.toNat

/-- The quote that a text is put into. -/
def quoteFor (cs : List Char) : Char :=
  if cs.contains '\'' && !cs.contains '"' then '"' else '\''

def quoted (text : String) : String :=
  let quote := quoteFor text.toList
  String.ofList (quote :: text.toList.flatMap (quotedChar quote) ++ [quote])

/-- The written form of one byte inside quotes; bytes beyond ASCII are never printable. -/
def quotedByte (quote : Char) (byte : UInt8) : List Char :=
  if byte.toNat < 128 then quotedChar quote (Char.ofNat byte.toNat)
  else '\\' :: 'x' :: hexPadded 2 byte.toNat

/-- A sequence of bytes in quotes, marked by the letter b. -/
def quotedBytes (bytes : List UInt8) : String :=
  let quote := quoteFor (bytes.map fun byte => Char.ofNat byte.toNat)
  String.ofList ('b' :: quote :: bytes.flatMap (quotedByte quote) ++ [quote])

end PhotoCatalog.Text
