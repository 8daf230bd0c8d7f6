import PhotoCatalog.Text.Digit
import PhotoCatalog.Text.Span

/-!
Hosts in resource addresses.  A host may hold brackets only around an IP address of the sixth or of
a later version, and no character that compatibility normalization turns into a delimiter.
-/

namespace PhotoCatalog.Address

open PhotoCatalog.Text

/-- The pieces between the occurrences of a separator; a list without separators is one piece. -/
def pieces (separator : Char) : List Char → List (List Char)
  | [] => [[]]
  | c :: rest =>
    if c = separator then [] :: pieces separator rest
    else match pieces separator rest with
      | [] => [[c]]
      | piece :: more => (c :: piece) :: more

def isHex (c : Char) : Bool :=
  isAsciiDigit c || ('a' ≤ c && c ≤ 'f') || ('A' ≤ c && c ≤ 'F')

/-- A decimal number up to 255 without leading zeros. -/
def isOctet (cs : List Char) : Bool :=
  match cs.mapM asciiDigit? with
  | none => false
  | some ds =>
    !ds.isEmpty && ds.length ≤ 3 && (ds.length == 1 || ds.head? != some 0) && ofDigits ds ≤ 255

def isIpv4 (cs : List Char) : Bool :=
  let octets := pieces '.' cs
  octets.length == 4 && octets.all isOctet

/-- One to four hexadecimal digits. -/
def isHextet (cs : List Char) : Bool :=
  !cs.isEmpty && cs.length ≤ 4 && cs.all isHex

/-- Eight groups between colons, or fewer with one empty group inside that stands for the missing
ones; an outermost group may be empty only beside that one. -/
def areGroups (groups : List (List Char)) : Bool :=
  let inner := (groups.drop 1).dropLast
  if inner.any List.isEmpty then
    let place := 1 + inner.findIdx List.isEmpty
    let before := groups.take place
    let after := groups.drop (place + 1)
    let before := if before == [[]] then [] else before
    let after := if after == [[]] then [] else after
    before.all isHextet && after.all isHextet && before.length + after.length ≤ 7
  else groups.length == 8 && groups.all isHextet

/-- An address of the sixth version of the Internet protocol, its last two groups perhaps written as
one of the fourth version, and perhaps a zone behind a percent sign. -/
def isIpv6 (cs : List Char) : Bool :=
  let address := cs.takeWhile (· ≠ '%')
  let zone := cs.dropWhile (· ≠ '%')
  let zoneFits := zone.isEmpty || (1 < zone.length && !(zone.drop 1).contains '%')
  let groups := pieces ':' address
  let last := groups.getLastD []
  let fits :=
    if last.contains '.' then isIpv4 last && areGroups (groups.dropLast ++ [['0'], ['0']])
    else areGroups groups
  zoneFits && 3 ≤ groups.length && groups.length ≤ 9 && fits

/-- An address of a later version: the letter v, a version number, a point and anything. -/
def isIpFuture (cs : List Char) : Bool :=
  let rest := cs.drop 1
  let version := rest.takeWhile isHex
  let tail := rest.dropWhile isHex
  !version.isEmpty && tail.head? == some '.' && 1 < tail.length

/-- The part of a host behind the last at sign: the name of the machine, and perhaps a colon and a
number. -/
def machine (host : List Char) : List Char :=
  (pieces '@' host).getLastD []

/-- The address that brackets stand around, or else all that stands before the first colon.
Nothing may stand before the brackets, and only a colon right behind them. -/
def bracketed? (cs : List Char) : Option (List Char) :=
  let before := cs.takeWhile (· ≠ '[')
  match cs.dropWhile (· ≠ '[') with
  | [] => some (cs.takeWhile (· ≠ ':'))
  | _ :: rest =>
    let behind := (rest.dropWhile (· ≠ ']')).drop 1
    if before.isEmpty && (behind.isEmpty || behind.head? == some ':') then
      some (rest.takeWhile (· ≠ ']'))
    else none

def bracketsFit (host : List Char) : Bool :=
  match host.contains '[', host.contains ']' with
  | false, false => true
  | true, true =>
    match bracketed? (machine host) with
    | none => false
    | some address => if address.head? = some 'v' then isIpFuture address else isIpv6 address
  | _, _ => false

/-- Characters beyond ASCII whose compatibility normalization holds a delimiter of addresses. -/
def delimiterLike : List Nat := [
  0x2047, 0x2048, 0x2049, 0x2100, 0x2101, 0x2105, 0x2106, 0x2A74, 0xFE13, 0xFE16, 0xFE55, 0xFE56,
  0xFE5F, 0xFE6B, 0xFF03, 0xFF0F, 0xFF1A, 0xFF1F, 0xFF20]

/-- Whether a text is a host that an address may name. -/
def isHost (host : List Char) : Bool :=
  bracketsFit host && host.all fun c => !delimiterLike.contains c.toNat

end PhotoCatalog.Address
