import PhotoCatalog.Address.Host
import PhotoCatalog.Fault
import PhotoCatalog.Text.Blank
import PhotoCatalog.Text.Case
import PhotoCatalog.Text.Utf8

/-!
File addresses.  `plainPath` turns a `file:` address into the path that it names and leaves every
other text as it is, apart from the blanks around it.
-/

namespace PhotoCatalog.Address

open PhotoCatalog.Text

def hexValue? (c : Char) : Option Nat :=
  if '0' ≤ c ∧ c ≤ '9' then some (c.toNat - 48)
  else if 'a' ≤ c ∧ c ≤ 'f' then some (c.toNat - 87)
  else if 'A' ≤ c ∧ c ≤ 'F' then some (c.toNat - 55)
  else none

def hexByte? (high low : Char) : Option UInt8 := do
  return UInt8.ofNat (16 * (← hexValue? high) + (← hexValue? low))

/-- The bytes of an ASCII text in which a percent sign and two hexadecimal digits stand for a byte;
any other percent sign stands for itself. -/
def percentBytes : List Char → List UInt8
  | [] => []
  | '%' :: high :: low :: rest =>
    match hexByte? high low with
    | some byte => byte :: percentBytes rest
    | none => UInt8.ofNat '%'.toNat :: percentBytes (high :: low :: rest)
  | c :: rest => UInt8.ofNat c.toNat :: percentBytes rest
termination_by cs => cs.length

def isAscii (c : Char) : Bool := c.toNat < 128

/-- Replace the escapes of a text by what they spell.  The characters beyond ASCII cut the text into
runs, and the bytes of each run are read as UTF-8 by themselves.  `run` holds the run that is being
collected, last character first. -/
def decodeRuns (run : List Char) : List Char → List Char
  | [] => decodeFrom .idle (percentBytes run.reverse)
  | c :: rest =>
    if isAscii c then decodeRuns (c :: run) rest
    else decodeFrom .idle (percentBytes run.reverse) ++ c :: decodeRuns [] rest

/-- Replace the escapes of a text by what they spell. -/
def percentDecode (cs : List Char) : List Char := decodeRuns [] cs

/-- The host and the path of an address behind its scheme; query and fragment are cut off. -/
structure Location where
  host : List Char
  path : List Char
deriving Repr, DecidableEq

def endsHost (c : Char) : Bool := c == '/' || c == '?' || c == '#'

/-- What stands before the first query or fragment mark. -/
def pathPart (cs : List Char) : List Char := cs.takeWhile fun c => c ≠ '#' ∧ c ≠ '?'

/-- Read an address behind its scheme: two slashes introduce a host. -/
def Location.of : List Char → Location
  | '/' :: '/' :: rest =>
    ⟨rest.takeWhile (!endsHost ·), pathPart (rest.dropWhile (!endsHost ·))⟩
  | rest => ⟨[], pathPart rest⟩

/-- Whether a path begins with a slash and a drive letter. -/
def hasDrive : List Char → Bool
  | '/' :: letter :: ':' :: _ => ('a' ≤ letter && letter ≤ 'z') || ('A' ≤ letter && letter ≤ 'Z')
  | _ => false

/-- The plain path of a location: a foreign host is kept as a network share, and the slash before a
drive letter is dropped. -/
def Location.plainPath (l : Location) : List Char :=
  let path := percentDecode l.path
  if !l.host.isEmpty && lower (String.ofList l.host) != "localhost" then
    '/' :: '/' :: l.host ++ path
  else if hasDrive path then path.drop 1
  else path

/-- Whether a text begins with the scheme of file addresses. -/
def isFileUri (cs : List Char) : Bool :=
  (cs.take 5).map asciiLower == ['f', 'i', 'l', 'e', ':']

/-- Whether a character vanishes from addresses: tab, line feed and carriage return. -/
def vanishes (c : Char) : Bool := c == '\t' || c == '\n' || c == '\r'

/-- The plain path that a text names: a file address is decoded, any other text stands for
itself. -/
def plainPath (token : String) : Except Fault String :=
  let cs := trimBy isBlank token.toList
  if isFileUri cs then
    let location := Location.of ((cs.drop 5).filter (!vanishes ·))
    if isHost location.host then .ok (String.ofList location.plainPath)
    else .error .malformedAddress
  else .ok (String.ofList cs)

end PhotoCatalog.Address
