/-!
UTF-8.  `decodeLossy` reads any bytes: a maximal run that begins a character but cannot finish it
becomes one replacement character, and so does a byte that can begin none.  `decode?` refuses such
bytes; `decodePieces` reads what stands before them, piece by piece.
-/

namespace PhotoCatalog.Text

/-- The replacement character, which stands for bytes that spell no character. -/
def replacement : Char := Char.ofNat 0xFFFD

/-- What a leading byte announces: the number of bytes that follow, its share of the code point,
and the least and greatest value of the next byte. -/
structure Lead where
  more : Nat
  share : Nat
  least : Nat
  greatest : Nat

/-- The announcement of a leading byte; the bounds on the next byte rule out overlong forms,
surrogates and code points beyond the last one. -/
def lead? (byte : Nat) : Option Lead :=
  if byte < 0x80 then some ⟨0, byte, 0x80, 0xBF⟩
  else if byte < 0xC2 then none
  else if byte < 0xE0 then some ⟨1, byte - 0xC0, 0x80, 0xBF⟩
  else if byte = 0xE0 then some ⟨2, 0, 0xA0, 0xBF⟩
  else if byte = 0xED then some ⟨2, 0xD, 0x80, 0x9F⟩
  else if byte < 0xF0 then some ⟨2, byte - 0xE0, 0x80, 0xBF⟩
  else if byte = 0xF0 then some ⟨3, 0, 0x90, 0xBF⟩
  else if byte < 0xF4 then some ⟨3, byte - 0xF0, 0x80, 0xBF⟩
  else if byte = 0xF4 then some ⟨3, 4, 0x80, 0x8F⟩
  else none

/-- What is known while a character is being read: how many bytes are missing, the code point so
far, and the bounds on the next byte.  Nothing is missing between two characters. -/
structure Pending where
  missing : Nat
  point : Nat
  least : Nat
  greatest : Nat

/-- The state between two characters. -/
def Pending.idle : Pending := ⟨0, 0, 0, 0⟩

/-- Begin a character at a byte: the characters finished by it, and the new state.  A byte that can
begin no character is answered by `bad`. -/
def beginChar (bad : Char) (byte : Nat) : List Char × Pending :=
  match lead? byte with
  | none => ([bad], .idle)
  | some lead =>
    if lead.more = 0 then ([Char.ofNat lead.share], .idle)
    else ([], ⟨lead.more, lead.share, lead.least, lead.greatest⟩)

/-- Read one byte: the characters finished by it, and the new state. -/
def stepByte (bad : Char) (pending : Pending) (byte : Nat) : List Char × Pending :=
  if pending.missing = 0 then beginChar bad byte
  else if pending.least ≤ byte ∧ byte ≤ pending.greatest then
    let point := pending.point * 64 + (byte - 0x80)
    if pending.missing = 1 then ([Char.ofNat point], .idle)
    else ([], ⟨pending.missing - 1, point, 0x80, 0xBF⟩)
  else
    let (chars, next) := beginChar bad byte
    (bad :: chars, next)

/-- Read bytes from a state on. -/
def decodeFrom (pending : Pending) : List UInt8 → List Char
  | [] => if pending.missing = 0 then [] else [replacement]
  | byte :: rest =>
    let (chars, next) := stepByte replacement pending byte.toNat
    chars ++ decodeFrom next rest

/-- The text of any bytes; what is not UTF-8 becomes replacement characters. -/
def decodeLossy (bytes : List UInt8) : String :=
  String.ofList (decodeFrom .idle bytes)

/-- A state that no byte leads out of. -/
def Pending.stuck : Pending := ⟨1, 0, 1, 0⟩

/-- The state behind a byte; none when the byte cannot stand here.  Three bytes that would spell
half of a surrogate pair are refused at the last of them. -/
def Pending.next? (pending : Pending) (byte : Nat) : Option Pending :=
  if pending.missing = 0 then
    (lead? byte).map fun lead => ⟨lead.more, lead.share, lead.least, lead.greatest⟩
  else if pending.least ≤ byte ∧ byte ≤ pending.greatest then
    some ⟨pending.missing - 1, 0, 0x80, 0xBF⟩
  else if pending.greatest = 0x9F ∧ 0xA0 ≤ byte ∧ byte ≤ 0xBF then some .stuck
  else none

def isUtf8From (pending : Pending) : List UInt8 → Bool
  | [] => pending.missing == 0
  | byte :: rest =>
    match pending.next? byte.toNat with
    | none => false
    | some next => isUtf8From next rest

def decode? (bytes : List UInt8) : Option String :=
  if isUtf8From .idle bytes then some (decodeLossy bytes) else none

/-- The number of bytes before the first one that cannot stand where it does. -/
def soundCount (pending : Pending) : List UInt8 → Nat
  | [] => 0
  | byte :: rest =>
    match pending.next? byte.toNat with
    | none => 0
    | some next => soundCount next rest + 1

/-- The text of bytes that may end within a character, which is left out. -/
def decodeFront (bytes : List UInt8) : String :=
  ((List.range 4).findSome? fun n => decode? (bytes.take (bytes.length - n))).getD ""

/-- The text of bytes that are read in pieces of this size, up to the first piece that holds a byte
which cannot stand where it does. -/
def decodePieces (size : Nat) (bytes : List UInt8) : String :=
  let sound := soundCount .idle bytes
  if sound = bytes.length then decodeFront bytes else decodeFront (bytes.take (sound / size * size))

def encodeChar (c : Char) : List UInt8 :=
  let n := c.toNat
  let tail (bits : Nat) : UInt8 := UInt8.ofNat (0x80 + bits % 64)
  if n < 0x80 then [UInt8.ofNat n]
  else if n < 0x800 then [UInt8.ofNat (0xC0 + n / 64), tail n]
  else if n < 0x10000 then [UInt8.ofNat (0xE0 + n / 4096), tail (n / 64), tail n]
  else [UInt8.ofNat (0xF0 + n / 262144), tail (n / 4096), tail (n / 64), tail n]

def encode (text : String) : List UInt8 := text.toList.flatMap encodeChar

end PhotoCatalog.Text
