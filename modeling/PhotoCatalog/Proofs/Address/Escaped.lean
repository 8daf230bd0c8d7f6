import Mathlib.Data.List.TakeWhile
import PhotoCatalog.Address.FileUri
import PhotoCatalog.Proofs.Text.Lower
import PhotoCatalog.Proofs.Text.Utf8

/-!
Escaped paths.  A path is escaped when every byte of a character outside of a small set is written
as a percent sign with two hexadecimal digits.  A file address that is put together from an escaped
path names the path again: nothing that reading an address cuts off, drops or decodes can stand in
an escaped path, apart from the escapes themselves.
-/

namespace PhotoCatalog.Address

open PhotoCatalog.Text

/-- Whether a character stands for itself in an escaped path. -/
def isUnreserved (c : Char) : Bool := c.isAlphanum || ['-', '.', '_', '~', '/'].contains c

/-- A hexadecimal digit, in upper case. -/
def hexDigit (n : Nat) : Char := asciiUpper (Nat.digitChar n)

def escapeByte (byte : UInt8) : List Char :=
  ['%', hexDigit (byte.toNat / 16), hexDigit (byte.toNat % 16)]

/-- A character as an escaped path spells it. -/
def escapedChar (c : Char) : List Char :=
  if isUnreserved c then [c] else (encodeChar c).flatMap escapeByte

def escapedChars (cs : List Char) : List Char := cs.flatMap escapedChar

def escaped (path : String) : String := String.ofList (escapedChars path.toList)

/-- Whether a path begins with a slash, a letter and a colon. -/
def NamesDrive (path : String) : Prop :=
  ∃ (letter : Char) (rest : List Char),
    letter.isAlpha = true ∧ path.toList = '/' :: letter :: ':' :: rest

section Decoding

theorem hexValue?_hexDigit : ∀ n < 16, hexValue? (hexDigit n) = some n := by decide

/-- The two digits of an escape are read as the byte that they spell. -/
theorem hexByte?_hexDigit (byte : UInt8) :
    hexByte? (hexDigit (byte.toNat / 16)) (hexDigit (byte.toNat % 16)) = some byte := by
  have hbyte : byte.toNat < 256 := byte.toNat_lt
  have hsum : 16 * (byte.toNat / 16) + byte.toNat % 16 = byte.toNat := by omega
  rw [hexByte?, hexValue?_hexDigit _ (by omega), hexValue?_hexDigit _ (by omega)]
  simp only [Option.bind_eq_bind, Option.bind_some, Option.pure_def, hsum, UInt8.ofNat_toNat]

theorem percentBytes_escapeByte (byte : UInt8) (rest : List Char) :
    percentBytes (escapeByte byte ++ rest) = byte :: percentBytes rest := by
  rw [escapeByte, List.cons_append, List.cons_append, List.cons_append, List.nil_append,
    percentBytes, hexByte?_hexDigit]

theorem percentBytes_escapeBytes (bytes : List UInt8) (rest : List Char) :
    percentBytes (bytes.flatMap escapeByte ++ rest) = bytes ++ percentBytes rest := by
  induction bytes with
  | nil => rfl
  | cons byte bytes ih =>
      rw [List.flatMap_cons, List.append_assoc, percentBytes_escapeByte, ih, List.cons_append]

/-- An ASCII character other than the percent sign is the byte that encodes it. -/
theorem percentBytes_cons {c : Char} (hascii : c.toNat < 128) (hplain : c ≠ '%')
    (rest : List Char) : percentBytes (c :: rest) = encodeChar c ++ percentBytes rest := by
  have hbyte : encodeChar c = [UInt8.ofNat c.toNat] := if_pos hascii
  rw [hbyte, List.singleton_append]
  cases rest with
  | nil => simp [percentBytes]
  | cons d rest => cases rest <;> simp [percentBytes, hplain]

/-- Characters that file addresses of escaped paths are made of. -/
def isAddressChar (c : Char) : Bool := isUnreserved c || c == '%' || c == ':'

theorem isAlpha_iff {c : Char} :
    c.isAlpha = true ↔ ('A' ≤ c ∧ c ≤ 'Z') ∨ ('a' ≤ c ∧ c ≤ 'z') := by
  have halpha : c.isAlpha = (decide ('A' ≤ c ∧ c ≤ 'Z') ||
      (decide ('a' ≤ c) && decide (c ≤ 'z'))) := rfl
  rw [halpha, Bool.or_eq_true, Bool.and_eq_true]
  simp only [decide_eq_true_eq]

theorem toNat_lt_of_isAlphanum {c : Char} (hc : c.isAlphanum = true) : c.toNat < 128 := by
  have hcases := (Bool.or_eq_true _ _).mp hc
  rcases hcases with hletter | hdigit
  · have hlast : c ≤ 'z' := by
      rcases isAlpha_iff.mp hletter with ⟨-, hupper⟩ | ⟨-, hlower⟩
      · exact Char.le_trans hupper (show 'Z' ≤ 'z' by decide)
      · exact hlower
    exact Nat.lt_of_le_of_lt (Char.le_def.mp hlast) (by decide)
  · have hlast : c ≤ '9' := of_decide_eq_true (Bool.and_eq_true_iff.mp hdigit).2
    exact Nat.lt_of_le_of_lt (Char.le_def.mp hlast) (by decide)

theorem toNat_lt_of_isUnreserved {c : Char} (hc : isUnreserved c = true) : c.toNat < 128 := by
  rw [isUnreserved, Bool.or_eq_true, List.contains_iff_mem] at hc
  rcases hc with hc | hc
  · exact toNat_lt_of_isAlphanum hc
  · have hmarks : ∀ d ∈ ['-', '.', '_', '~', '/'], d.toNat < 128 := by simp
    exact hmarks c hc

theorem toNat_lt_of_isAddressChar {c : Char} (hc : isAddressChar c = true) : c.toNat < 128 := by
  simp only [isAddressChar, Bool.or_eq_true, beq_iff_eq] at hc
  rcases hc with (hc | rfl) | rfl
  · exact toNat_lt_of_isUnreserved hc
  · decide
  · decide

/-- A property of ASCII characters that is checked for each of them. -/
theorem of_ascii {p : Char → Prop} (hall : ∀ n < 128, p (Char.ofNat n)) {c : Char}
    (hascii : c.toNat < 128) : p c := by
  rw [← Char.ofNat_toNat c]
  exact hall c.toNat hascii

/-- Reading an address neither trims, drops nor cuts at these characters. -/
theorem plain_of_isAddressChar {c : Char} (hc : isAddressChar c = true) :
    isBlank c = false ∧ vanishes c = false ∧ c ≠ '#' ∧ c ≠ '?' := by
  have hall : ∀ n < 128, isAddressChar (Char.ofNat n) = true → isBlank (Char.ofNat n) = false ∧
      vanishes (Char.ofNat n) = false ∧ Char.ofNat n ≠ '#' ∧ Char.ofNat n ≠ '?' := by
    decide +kernel
  exact of_ascii (p := fun c => isAddressChar c = true → isBlank c = false ∧
    vanishes c = false ∧ c ≠ '#' ∧ c ≠ '?') hall (toNat_lt_of_isAddressChar hc) hc

theorem isAddressChar_hexDigit : ∀ n < 16, isAddressChar (hexDigit n) = true := by decide

theorem isAddressChar_of_isUnreserved {c : Char} (hc : isUnreserved c = true) :
    isAddressChar c = true := by
  rw [isAddressChar, hc]
  rfl

theorem isAddressChar_escapeByte (byte : UInt8) :
    ∀ c ∈ escapeByte byte, isAddressChar c = true := by
  have hbyte : byte.toNat < 256 := byte.toNat_lt
  intro c hc
  simp only [escapeByte, List.mem_cons, List.not_mem_nil, or_false] at hc
  rcases hc with rfl | rfl | rfl
  · decide
  · exact isAddressChar_hexDigit _ (by omega)
  · exact isAddressChar_hexDigit _ (by omega)

theorem isAddressChar_escapedChars (cs : List Char) :
    ∀ c ∈ escapedChars cs, isAddressChar c = true := by
  intro c hc
  obtain ⟨d, -, hc⟩ := List.mem_flatMap.mp hc
  rw [escapedChar] at hc
  split at hc
  · rename_i hd
    rw [List.mem_singleton.mp hc]
    exact isAddressChar_of_isUnreserved hd
  · obtain ⟨byte, -, hc⟩ := List.mem_flatMap.mp hc
    exact isAddressChar_escapeByte byte c hc

theorem percentBytes_escapedChar (c : Char) (rest : List Char) :
    percentBytes (escapedChar c ++ rest) = encodeChar c ++ percentBytes rest := by
  rw [escapedChar]
  split
  · rename_i hc
    have hplain : c ≠ '%' := by
      rintro rfl
      exact absurd hc (by decide)
    exact percentBytes_cons (toNat_lt_of_isUnreserved hc) hplain rest
  · exact percentBytes_escapeBytes _ rest

theorem percentBytes_escapedChars (cs : List Char) :
    percentBytes (escapedChars cs) = cs.flatMap encodeChar := by
  induction cs with
  | nil => simp [escapedChars, percentBytes]
  | cons c cs ih =>
      rw [escapedChars, List.flatMap_cons, percentBytes_escapedChar, ← escapedChars, ih,
        List.flatMap_cons]

/-- Without characters beyond ASCII a text is a single run. -/
theorem decodeRuns_ascii {cs : List Char} (hascii : ∀ c ∈ cs, c.toNat < 128) (run : List Char) :
    decodeRuns run cs = decodeFrom .idle (percentBytes (run.reverse ++ cs)) := by
  induction cs generalizing run with
  | nil => rw [decodeRuns, List.append_nil]
  | cons c cs ih =>
      obtain ⟨hc, hcs⟩ := List.forall_mem_cons.mp hascii
      rw [decodeRuns, if_pos (by simpa [isAscii] using hc), ih hcs, List.reverse_cons,
        List.append_assoc]
      rfl

theorem decodeFrom_encoded (cs : List Char) : decodeFrom .idle (cs.flatMap encodeChar) = cs := by
  have hread := decode?_encode (String.ofList cs)
  rw [decode?] at hread
  split at hread
  · have htext := congrArg String.toList (Option.some.inj hread)
    rwa [decodeLossy, encode, String.toList_ofList, String.toList_ofList] at htext
  · cases hread

/-- What is spelled without escapes at the front stands for itself. -/
theorem percentDecode_front {front : List Char}
    (hfront : ∀ c ∈ front, c.toNat < 128 ∧ c ≠ '%') (cs : List Char) :
    percentDecode (front ++ escapedChars cs) = front ++ cs := by
  have hascii : ∀ c ∈ front ++ escapedChars cs, c.toNat < 128 := by
    intro c hc
    rcases List.mem_append.mp hc with hc | hc
    · exact (hfront c hc).1
    · exact toNat_lt_of_isAddressChar (isAddressChar_escapedChars cs c hc)
  have hbytes : ∀ front : List Char, (∀ c ∈ front, c.toNat < 128 ∧ c ≠ '%') →
      percentBytes (front ++ escapedChars cs) = (front ++ cs).flatMap encodeChar := by
    intro front hfront
    induction front with
    | nil => exact percentBytes_escapedChars cs
    | cons c front ih =>
        obtain ⟨⟨hc, hplain⟩, hfront⟩ := List.forall_mem_cons.mp hfront
        rw [List.cons_append, percentBytes_cons hc hplain, ih hfront]
        rfl
  rw [percentDecode, decodeRuns_ascii hascii, List.reverse_nil, List.nil_append,
    hbytes front hfront, decodeFrom_encoded]

theorem percentDecode_escapedChars (cs : List Char) : percentDecode (escapedChars cs) = cs :=
  percentDecode_front (List.forall_mem_nil _) cs

end Decoding

section Reading

/-- Characters of the names of machines. -/
def isHostChar (c : Char) : Bool := c.isAlphanum || c == '.' || c == '-'

variable {host path : List Char}

theorem isAddressChar_of_isHostChar {c : Char} (hc : isHostChar c = true) :
    isAddressChar c = true := by
  apply isAddressChar_of_isUnreserved
  simp only [isHostChar, Bool.or_eq_true, beq_iff_eq] at hc
  rcases hc with (hc | rfl) | rfl
  · rw [isUnreserved, hc]
    rfl
  · decide
  · decide

theorem isHostChar_ne {c : Char} (hc : isHostChar c = true) :
    endsHost c = false ∧ c ≠ '[' ∧ c ≠ ']' ∧ delimiterLike.contains c.toNat = false := by
  have hall : ∀ n < 128, isHostChar (Char.ofNat n) = true → endsHost (Char.ofNat n) = false ∧
      Char.ofNat n ≠ '[' ∧ Char.ofNat n ≠ ']' ∧
      delimiterLike.contains (Char.ofNat n).toNat = false := by
    decide +kernel
  have hascii := toNat_lt_of_isAddressChar (isAddressChar_of_isHostChar hc)
  exact of_ascii (p := fun c => isHostChar c = true → endsHost c = false ∧ c ≠ '[' ∧ c ≠ ']' ∧
    delimiterLike.contains c.toNat = false) hall hascii hc

theorem isHost_of_isHostChar (hhost : ∀ c ∈ host, isHostChar c = true) : isHost host = true := by
  have hopening : host.contains '[' = false := by
    rw [← Bool.not_eq_true, List.contains_iff_mem]
    exact fun hmem => (isHostChar_ne (hhost _ hmem)).2.1 rfl
  have hclosing : host.contains ']' = false := by
    rw [← Bool.not_eq_true, List.contains_iff_mem]
    exact fun hmem => (isHostChar_ne (hhost _ hmem)).2.2.1 rfl
  have hfit : bracketsFit host = true := by
    simp only [bracketsFit, hopening, hclosing]
  rw [isHost, hfit, Bool.true_and, List.all_eq_true]
  intro c hc
  rw [(isHostChar_ne (hhost c hc)).2.2.2]
  rfl

/-- Behind two slashes stand the host, up to the next slash, and the path, which is not cut. -/
theorem location_of_host (hhost : ∀ c ∈ host, isHostChar c = true)
    (hpath : ∀ c ∈ path, isAddressChar c = true) (hslash : path.head? = some '/') :
    Location.of ('/' :: '/' :: (host ++ path)) = ⟨host, path⟩ := by
  obtain ⟨rest, rfl⟩ : ∃ rest, path = '/' :: rest := List.head?_eq_some_iff.mp hslash
  have hgoes : ∀ c ∈ host, (!endsHost c) = true := by
    intro c hc
    rw [(isHostChar_ne (hhost c hc)).1]
    rfl
  have hends : (!endsHost '/') = false := by decide
  have hkept : ∀ c ∈ '/' :: rest, decide (c ≠ '#' ∧ c ≠ '?') = true := by
    intro c hc
    exact decide_eq_true (plain_of_isAddressChar (hpath c hc)).2.2
  rw [Location.of, List.takeWhile_append_of_pos hgoes, List.dropWhile_append_of_pos hgoes,
    List.takeWhile_cons, List.dropWhile_cons, hends, if_neg Bool.false_ne_true,
    if_neg Bool.false_ne_true, List.append_nil, pathPart, List.takeWhile_eq_self_iff.mpr hkept]

theorem trimBy_eq_of_forall {α : Type} {p : α → Bool} {xs : List α}
    (hall : ∀ x ∈ xs, p x = false) : trimBy p xs = xs := by
  have hnone : ∀ ys : List α, (∀ x ∈ ys, p x = false) → ys.dropWhile p = ys := by
    intro ys hys
    cases ys with
    | nil => rfl
    | cons y ys => exact List.dropWhile_cons_of_neg (by simp [hys y List.mem_cons_self])
  rw [trimBy, hnone xs hall, hnone xs.reverse fun x hx => hall x (List.mem_reverse.mp hx),
    List.reverse_reverse]

/-- An address of such characters is read as it stands. -/
theorem plainPath_address (hhost : ∀ c ∈ host, isHostChar c = true)
    (hpath : ∀ c ∈ path, isAddressChar c = true) (hslash : path.head? = some '/') {token : String}
    (htoken : token.toList = "file://".toList ++ (host ++ path)) :
    plainPath token = .ok (String.ofList (Location.plainPath ⟨host, path⟩)) := by
  have hchars : ∀ c ∈ token.toList, isAddressChar c = true := by
    rw [htoken]
    have hscheme : ∀ c ∈ "file://".toList, isAddressChar c = true :=
      List.all_eq_true.mp (by decide)
    have hname : ∀ c ∈ host, isAddressChar c = true :=
      fun c hc => isAddressChar_of_isHostChar (hhost c hc)
    exact List.forall_mem_append.mpr ⟨hscheme, List.forall_mem_append.mpr ⟨hname, hpath⟩⟩
  have htrim : trimBy isBlank token.toList = token.toList :=
    trimBy_eq_of_forall fun c hc => (plain_of_isAddressChar (hchars c hc)).1
  have hkept : (token.toList.drop 5).filter (!vanishes ·) = token.toList.drop 5 := by
    refine List.filter_eq_self.mpr fun c hc => ?_
    rw [(plain_of_isAddressChar (hchars c (List.mem_of_mem_drop hc))).2.1]
    rfl
  have huri : isFileUri token.toList = true := by
    rw [htoken]
    rfl
  have hlocation : Location.of (token.toList.drop 5) = ⟨host, path⟩ := by
    rw [htoken]
    exact location_of_host hhost hpath hslash
  rw [plainPath]
  simp only [htrim, huri, if_true, hkept, hlocation, isHost_of_isHostChar hhost]

end Reading

section Naming

variable {host path : String}

theorem hasDrive_of_not_namesDrive (hdrive : ¬NamesDrive path) : hasDrive path.toList = false := by
  rw [hasDrive.eq_def]
  split
  · rename_i letter rest heq
    by_contra hletter
    refine hdrive ⟨letter, rest, ?_, heq⟩
    rw [Bool.not_eq_false, Bool.or_eq_true, Bool.and_eq_true, Bool.and_eq_true] at hletter
    simp only [decide_eq_true_eq] at hletter
    exact isAlpha_iff.mpr hletter.symm
  · rfl

/-- The lower case of ASCII characters is the one of letters. -/
theorem lowerAfter_ascii {cs : List Char} (hascii : ∀ c ∈ cs, c.toNat < 128)
    (before : List Char) : lowerAfter before cs = cs.map asciiLower := by
  induction cs generalizing before with
  | nil => rfl
  | cons c cs ih =>
      obtain ⟨hc, hcs⟩ := List.forall_mem_cons.mp hascii
      rw [lowerAfter, if_neg (by omega), lowerChar, if_pos hc, ih hcs]
      rfl

theorem lower_ne_localhost (hhost : ∀ c ∈ host.toList, isHostChar c = true)
    (hforeign : ¬SameLetters host "localhost") : lower host ≠ "localhost" := by
  intro hlower
  have hascii : ∀ c ∈ host.toList, c.toNat < 128 :=
    fun c hc => toNat_lt_of_isAddressChar (isAddressChar_of_isHostChar (hhost c hc))
  have hletters := congrArg String.toList hlower
  rw [lower, String.toList_ofList, lowerAfter_ascii hascii] at hletters
  refine hforeign (hletters.trans ?_)
  decide

theorem head?_escapedChars {cs : List Char} (hslash : cs.head? = some '/') :
    (escapedChars cs).head? = some '/' := by
  obtain ⟨rest, rfl⟩ : ∃ rest, cs = '/' :: rest := List.head?_eq_some_iff.mp hslash
  rfl

/-- A path that begins with a slash and names no drive, behind an address without a host. -/
theorem plainPath_local (hslash : path.toList.head? = some '/') (hdrive : ¬NamesDrive path) :
    plainPath ("file://" ++ escaped path) = .ok path := by
  have htoken : ("file://" ++ escaped path).toList =
      "file://".toList ++ ([] ++ escapedChars path.toList) := by simp [escaped]
  have hread := plainPath_address (List.forall_mem_nil _) (isAddressChar_escapedChars _)
    (head?_escapedChars hslash) htoken
  rw [hread, Location.plainPath, percentDecode_escapedChars]
  simp [hasDrive_of_not_namesDrive hdrive]

theorem hasDrive_letter {letter : Char} (hletter : letter.isAlpha = true) (rest : List Char) :
    hasDrive ('/' :: letter :: ':' :: rest) = true := by
  simp only [hasDrive, Bool.or_eq_true, Bool.and_eq_true, decide_eq_true_eq]
  exact (isAlpha_iff.mp hletter).symm

/-- The slash before a drive letter is dropped; the letter and the colon need no escapes. -/
theorem plainPath_drive {letter : Char} (hletter : letter.isAlpha = true) (path : String) :
    plainPath ("file:///" ++ letter.toString ++ ":" ++ escaped path) =
      .ok (letter.toString ++ ":" ++ path) := by
  have halnum : letter.isAlphanum = true := by rw [Char.isAlphanum, hletter, Bool.true_or]
  have hunreserved : isUnreserved letter = true := by rw [isUnreserved, halnum, Bool.true_or]
  have hfront : ∀ c ∈ ['/', letter, ':'], c.toNat < 128 ∧ c ≠ '%' := by
    have hpercent : letter ≠ '%' := by
      rintro rfl
      exact absurd hletter (by decide)
    simp [toNat_lt_of_isAlphanum halnum, hpercent]
  have hchars : ∀ c ∈ ['/', letter, ':'] ++ escapedChars path.toList, isAddressChar c = true := by
    refine List.forall_mem_append.mpr ⟨?_, isAddressChar_escapedChars _⟩
    have hslash : isAddressChar '/' = true := by decide
    have hcolon : isAddressChar ':' = true := by decide
    simp [hslash, hcolon, isAddressChar_of_isUnreserved hunreserved]
  have htoken : ("file:///" ++ letter.toString ++ ":" ++ escaped path).toList =
      "file://".toList ++ ([] ++ (['/', letter, ':'] ++ escapedChars path.toList)) := by
    simp [escaped]
  have hread := plainPath_address (List.forall_mem_nil _) hchars rfl htoken
  have hdrive := hasDrive_letter hletter path.toList
  rw [hread, Location.plainPath, percentDecode_front hfront]
  simp only [List.cons_append, List.nil_append, hdrive]
  exact congrArg Except.ok (String.toList_inj.mp (by simp))

theorem plainPath_host (hne : host ≠ "") (hhost : ∀ c ∈ host.toList, isHostChar c = true)
    (hforeign : ¬SameLetters host "localhost") (hslash : path.toList.head? = some '/') :
    plainPath ("file://" ++ host ++ escaped path) = .ok ("//" ++ host ++ path) := by
  have htoken : ("file://" ++ host ++ escaped path).toList =
      "file://".toList ++ (host.toList ++ escapedChars path.toList) := by simp [escaped]
  have hread := plainPath_address hhost (isAddressChar_escapedChars _) (head?_escapedChars hslash)
    htoken
  have hnamed : (!host.toList.isEmpty && lower (String.ofList host.toList) != "localhost") =
      true := by
    rw [String.ofList_toList]
    simp [lower_ne_localhost hhost hforeign, hne]
  rw [hread, Location.plainPath, percentDecode_escapedChars]
  simp only [hnamed, if_true]
  exact congrArg Except.ok (String.toList_inj.mp (by simp))

/-- Reading a file address undoes escaping, whatever characters a path holds.  A path behind an
address without a host is named as it is, unless it begins with a drive; a path behind a drive is
named without the first slash; and the name of a foreign machine stays before the path. -/
theorem plainPath_escaped :
    (∀ path : String, path.toList.head? = some '/' → ¬NamesDrive path →
      plainPath ("file://" ++ escaped path) = .ok path) ∧
    (∀ (letter : Char) (path : String), letter.isAlpha = true →
      plainPath ("file:///" ++ letter.toString ++ ":" ++ escaped path) =
        .ok (letter.toString ++ ":" ++ path)) ∧
    (∀ host path : String, host ≠ "" → (∀ c ∈ host.toList, isHostChar c = true) →
      ¬SameLetters host "localhost" → path.toList.head? = some '/' →
      plainPath ("file://" ++ host ++ escaped path) = .ok ("//" ++ host ++ path)) :=
  ⟨fun _ hslash hdrive => plainPath_local hslash hdrive,
    fun _ path hletter => plainPath_drive hletter path,
    fun _ _ hne hhost hforeign hslash => plainPath_host hne hhost hforeign hslash⟩

end Naming

theorem plainPath_escaped_marks :
    plainPath "file:///photos/%C3%A4%20%2520%23.jpg" = .ok "/photos/ä %20#.jpg" ∧
      plainPath "file:///C:/a%3Bb" = .ok "C:/a;b" ∧
      plainPath "file://nas-1//%F0%9F%93%B7%3F" = .ok "//nas-1//📷?" := by
  obtain ⟨hlocal, hdrive, hhost⟩ := plainPath_escaped
  have hplain : ¬NamesDrive "/photos/ä %20#.jpg" := by
    rintro ⟨letter, rest, -, hlist⟩
    have hthird : some 'h' = some ':' := congrArg (fun cs => cs[2]?) hlist
    exact absurd hthird (by decide)
  refine ⟨?_, ?_, ?_⟩
  · have hescaped : "file://" ++ escaped "/photos/ä %20#.jpg" =
        "file:///photos/%C3%A4%20%2520%23.jpg" := by decide +kernel
    exact hescaped ▸ hlocal "/photos/ä %20#.jpg" (by decide) hplain
  · have hescaped : "file:///" ++ 'C'.toString ++ ":" ++ escaped "/a;b" = "file:///C:/a%3Bb" := by
      decide +kernel
    exact hescaped ▸ hdrive 'C' "/a;b" (by decide)
  · have hescaped : "file://" ++ "nas-1" ++ escaped "//📷?" = "file://nas-1//%F0%9F%93%B7%3F" := by
      decide +kernel
    have hname : ∀ c ∈ "nas-1".toList, isHostChar c = true := List.all_eq_true.mp (by decide)
    exact hescaped ▸ hhost "nas-1" "//📷?" (by decide) hname (by decide) (by decide)

end PhotoCatalog.Address
