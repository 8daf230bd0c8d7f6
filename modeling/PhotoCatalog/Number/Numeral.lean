import PhotoCatalog.Number.Wide
import PhotoCatalog.Text.Blank
import PhotoCatalog.Text.Digit

/-!
Numerals that people type.  White space around a numeral is ignored, decimal digits of every script
count, and a single underscore may stand between two digits.
-/

namespace PhotoCatalog.Number

open PhotoCatalog.Text

/-- The double nearest to `significand * 10 ^ exponent`; beyond the finite doubles it is infinite.
Far outside the range of doubles no power of ten is computed. -/
def ofDecimal (significand : Nat) (exponent : Int) : Float :=
  let place : Int := (digitsOf significand).length + exponent
  if significand = 0 then 0.0
  else if 400 < place then infinity
  else if place < -400 then 0.0
  else ((Ratio.ofNat significand).scale exponent).toFloat

/-- A numeral in ASCII: digits of other scripts become ASCII digits and blanks of other kinds
become spaces.  Any other character beyond ASCII spoils the numeral. -/
def asciiNumeral? (cs : List Char) : Option (List Char) :=
  cs.mapM fun c =>
    if c.toNat < 127 then some c
    else if isBlank c then some ' '
    else (digitValue? c).map digitChar

/-- The list without underscores; none when one of them does not stand between two digits. -/
def dropUnderscores (afterDigit : Bool) : List Char → Option (List Char)
  | [] => some []
  | '_' :: rest =>
    match rest with
    | d :: _ => if afterDigit && isAsciiDigit d then dropUnderscores false rest else none
    | [] => none
  | c :: rest => (dropUnderscores (isAsciiDigit c) rest).map (c :: ·)

/-- Split off a sign; true means minus. -/
def takeSign : List Char → Bool × List Char
  | '-' :: rest => (true, rest)
  | '+' :: rest => (false, rest)
  | cs => (false, cs)

/-- Split off the ASCII digits at the head of a list, as values. -/
def takeDigits : List Char → List Nat × List Char
  | [] => ([], [])
  | c :: rest =>
    match asciiDigit? c with
    | some d => let (ds, rest) := takeDigits rest; (d :: ds, rest)
    | none => ([], c :: rest)

/-- The sign and the digits of an exponent: none when the list is no exponent, no digits when it is
empty. -/
def exponentDigits? : List Char → Option (Bool × List Nat)
  | [] => some (false, [])
  | c :: rest =>
    if c = 'e' ∨ c = 'E' then
      let (negative, rest) := takeSign rest
      match takeDigits rest with
      | ([], _) => none
      | (ds, []) => some (negative, ds)
      | _ => none
    else none

def signed (negative : Bool) (size : Nat) : Int := if negative then -size else size

/-- The exponent of a numeral; zero when the list is empty. -/
def exponent? (cs : List Char) : Option Int :=
  (exponentDigits? cs).map fun (negative, ds) => signed negative (ofDigits ds)

/-- The size that an unsigned decimal numeral spells: digits with at most one point and at least one
digit, then perhaps an exponent. -/
def decimalSize? (cs : List Char) : Option Float :=
  let (whole, rest) := takeDigits cs
  let (fraction, rest) := match rest with
    | '.' :: rest => takeDigits rest
    | rest => ([], rest)
  if whole.isEmpty && fraction.isEmpty then none
  else (exponent? rest).map fun e => ofDecimal (ofDigits (whole ++ fraction)) (e - fraction.length)

/-- The size that an unsigned numeral spells, the names of infinity and of the undefined number
included. -/
def size? (cs : List Char) : Option Float :=
  let name := String.ofList (cs.map Char.toLower)
  if name = "inf" ∨ name = "infinity" then some infinity
  else if name = "nan" then some undefined
  else decimalSize? cs

def floatOfAscii? (cs : List Char) : Option Float := do
  let (negative, cs) := takeSign (← dropUnderscores false (trimBy isAsciiBlank cs))
  let size ← size? cs
  return if negative then -size else size

def float? (text : String) : Option Float :=
  (asciiNumeral? text.toList).bind floatOfAscii?

/-- Whole numbers are read up to this number of digits. -/
def maxDigits : Nat := 4300

def intOfAscii? (cs : List Char) : Option Int := do
  let (negative, cs) := takeSign (← dropUnderscores false (trimBy isAsciiBlank cs))
  match takeDigits cs with
  | ([], _) => none
  | (ds, []) =>
    if maxDigits < ds.length then none
    else some (signed negative (ofDigits ds))
  | _ => none

def int? (text : String) : Option Int :=
  (asciiNumeral? text.toList).bind intOfAscii?

/-- Bytes as ASCII characters; none when a byte lies beyond ASCII. -/
def asciiOfBytes? (bytes : List UInt8) : Option (List Char) :=
  bytes.mapM fun byte => if byte.toNat < 128 then some (Char.ofNat byte.toNat) else none

def floatOfBytes? (bytes : List UInt8) : Option Float :=
  (asciiOfBytes? bytes).bind floatOfAscii?

def intOfBytes? (bytes : List UInt8) : Option Int :=
  (asciiOfBytes? bytes).bind intOfAscii?

end PhotoCatalog.Number
