/-!
Bytes in sixty-four printable characters.  Three bytes are four characters; at the end, equals signs
fill the last group up.  `decode?` reads what `encode` writes.
-/

namespace PhotoCatalog.Image.Base64

def charOf (value : Nat) : Char :=
  if value < 26 then Char.ofNat (65 + value)
  else if value < 52 then Char.ofNat (97 + (value - 26))
  else if value < 62 then Char.ofNat (48 + (value - 52))
  else if value = 62 then '+'
  else '/'

def valueOf? (c : Char) : Option Nat :=
  if 'A' ≤ c ∧ c ≤ 'Z' then some (c.toNat - 65)
  else if 'a' ≤ c ∧ c ≤ 'z' then some (c.toNat - 97 + 26)
  else if '0' ≤ c ∧ c ≤ '9' then some (c.toNat - 48 + 52)
  else if c = '+' then some 62
  else if c = '/' then some 63
  else none

def encode : List UInt8 → List Char
  | [] => []
  | [a] =>
    let n := a.toNat * 16
    [charOf (n / 64), charOf (n % 64), '=', '=']
  | [a, b] =>
    let n := (a.toNat * 256 + b.toNat) * 4
    [charOf (n / 4096), charOf (n / 64 % 64), charOf (n % 64), '=']
  | a :: b :: c :: rest =>
    let n := (a.toNat * 256 + b.toNat) * 256 + c.toNat
    charOf (n / 262144) :: charOf (n / 4096 % 64) :: charOf (n / 64 % 64) :: charOf (n % 64)
      :: encode rest

def decode? : List Char → Option (List UInt8)
  | [] => some []
  | [p, q, '=', '='] => do
    let n := (← valueOf? p) * 64 + (← valueOf? q)
    return [UInt8.ofNat (n / 16)]
  | [p, q, r, '='] => do
    let n := ((← valueOf? p) * 64 + (← valueOf? q)) * 64 + (← valueOf? r)
    return [UInt8.ofNat (n / 1024), UInt8.ofNat (n / 4 % 256)]
  | p :: q :: r :: s :: rest => do
    let n := (((← valueOf? p) * 64 + (← valueOf? q)) * 64 + (← valueOf? r)) * 64 + (← valueOf? s)
    let bytes ← decode? rest
    return UInt8.ofNat (n / 65536) :: UInt8.ofNat (n / 256 % 256) :: UInt8.ofNat (n % 256) :: bytes
  | _ => none

end PhotoCatalog.Image.Base64
