import PhotoCatalog.Json.Printer
import PhotoCatalog.Json.Reader

/-!
Texts in JSON.  Every character is read back from its written form, in ASCII from the code units
that spell it, and so is every text.
-/

namespace PhotoCatalog.Json

open PhotoCatalog.Text PhotoCatalog.Address

variable {cs rest : List Char} {c : Char}

/-- Whether the written form of every character stands for the character. -/
def Faithful (escape : Char → List Char) : Prop :=
  ∀ c rest, readChars (escape c ++ rest) =
    (readChars rest).map fun (cs, tail) => (c :: cs, tail)

theorem readChars_bind (c : Char) (rest : List Char) :
    (do let (cs, tail) ← readChars rest; return (c :: cs, tail)) =
      (readChars rest).map fun (cs, tail) => (c :: cs, tail) := by
  cases readChars rest <;> rfl

theorem readChars_plain (hquote : c ≠ '"') (hslash : c ≠ '\\') (hcontrol : 32 ≤ c.toNat) :
    readChars (c :: rest) = (readChars rest).map fun (cs, tail) => (c :: cs, tail) := by
  have hplain : ¬ (c = '\\' ∨ c.toNat < 32) := by
    rintro (h | h)
    · exact hslash h
    · omega
  rw [readChars]
  · rw [if_neg hplain, readChars_bind]
  · exact hquote
  · intro _ _ _ _ _ h _
    exact hslash h
  · intro _ _ h _
    exact hslash h

theorem readChars_escape {letter : Char} (hletter : simpleEscape? letter = some c) :
    readChars ('\\' :: letter :: rest) =
      (readChars rest).map fun (cs, tail) => (c :: cs, tail) := by
  have hu : letter ≠ 'u' := by
    rintro rfl
    contradiction
  rw [readChars]
  · rw [hletter, Option.bind_eq_bind, Option.bind_some, readChars_bind]
  · intro _ _ _ _ _ h _
    exact hu h

theorem hexPadded_one {n : Nat} (hn : n < 16) : hexPadded 1 n = [Nat.digitChar n] := by
  rw [hexPadded, Nat.toDigits_of_lt_base hn]
  rfl

/-- The last hexadecimal digit is the rest of a division by sixteen. -/
theorem hexPadded_succ (width n : Nat) :
    hexPadded (width + 2) n = hexPadded (width + 1) (n / 16) ++ [Nat.digitChar (n % 16)] := by
  rw [hexPadded, hexPadded]
  rcases Nat.lt_or_ge n 16 with hsmall | hlarge
  · rw [Nat.div_eq_of_lt hsmall, Nat.mod_eq_of_lt hsmall, Nat.toDigits_of_lt_base hsmall,
      Nat.toDigits_zero]
    change List.replicate (width + 1) '0' ++ _ = List.replicate width '0' ++ ['0'] ++ _
    rw [List.replicate_succ']
  · rw [Nat.toDigits_of_base_le (by decide) hlarge, List.length_append, List.length_singleton,
      List.append_assoc]
    congr 2
    omega

/-- Four hexadecimal digits spell a code unit. -/
theorem hexPadded_four {unit : Nat} (hunit : unit < 0x10000) :
    hexPadded 4 unit = [Nat.digitChar (unit / 16 / 16 / 16), Nat.digitChar (unit / 16 / 16 % 16),
      Nat.digitChar (unit / 16 % 16), Nat.digitChar (unit % 16)] := by
  rw [hexPadded_succ, hexPadded_succ, hexPadded_succ, hexPadded_one (by omega)]
  rfl

theorem hexValue?_digitChar : ∀ digit < 16, hexValue? (Nat.digitChar digit) = some digit := by
  decide

theorem codeUnit?_hexPadded {unit : Nat} (hunit : unit < 0x10000) :
    ∃ a b c d, hexPadded 4 unit = [a, b, c, d] ∧ codeUnit? a b c d = some unit := by
  refine ⟨_, _, _, _, hexPadded_four hunit, ?_⟩
  rw [codeUnit?, hexValue?_digitChar _ (by omega), hexValue?_digitChar _ (by omega),
    hexValue?_digitChar _ (by omega), hexValue?_digitChar _ (by omega)]
  simp only [Option.bind_eq_bind, Option.bind_some, Option.pure_def]
  congr 1
  omega

/-- A code unit that is not half of a pair is read back. -/
theorem readChars_unit {unit : Nat} (hunit : unit < 0xD800 ∨ 0xE000 ≤ unit ∧ unit < 0x10000) :
    readChars (escapedUnit unit ++ rest) =
      (readChars rest).map fun (cs, tail) => (Char.ofNat unit :: cs, tail) := by
  obtain ⟨a, b, c, d, hdigits, hvalue⟩ := @codeUnit?_hexPadded unit (by omega)
  have hhigh : isHighHalf unit = false := by
    simp only [isHighHalf, Bool.and_eq_false_iff, decide_eq_false_iff_not]
    omega
  have hlow : isLowHalf unit = false := by
    simp only [isLowHalf, Bool.and_eq_false_iff, decide_eq_false_iff_not]
    omega
  rw [escapedUnit, hdigits]
  change readChars ('\\' :: 'u' :: a :: b :: c :: d :: rest) = _
  rw [readChars, hvalue, Option.bind_eq_bind, Option.bind_some, hhigh]
  simp only [Bool.false_eq_true, if_false, unitChar, hhigh, hlow, Bool.or_self]
  exact readChars_bind _ _

/-- The two halves of a pair are read back as one character. -/
theorem readChars_pair {high low : Nat} (hhigh : 0xD800 ≤ high ∧ high < 0xDC00)
    (hlow : 0xDC00 ≤ low ∧ low < 0xE000) :
    readChars (escapedUnit high ++ escapedUnit low ++ rest) =
      (readChars rest).map fun (cs, tail) => (pairChar high low :: cs, tail) := by
  obtain ⟨a, b, c, d, hdigits, hvalue⟩ := @codeUnit?_hexPadded high (by omega)
  obtain ⟨a', b', c', d', hdigits', hvalue'⟩ := @codeUnit?_hexPadded low (by omega)
  have hishigh : isHighHalf high = true := by
    simp only [isHighHalf, Bool.and_eq_true, decide_eq_true_eq]
    omega
  have hislow : isLowHalf low = true := by
    simp only [isLowHalf, Bool.and_eq_true, decide_eq_true_eq]
    omega
  rw [escapedUnit, escapedUnit, hdigits, hdigits']
  change readChars ('\\' :: 'u' :: a :: b :: c :: d ::
    '\\' :: 'u' :: a' :: b' :: c' :: d' :: rest) = _
  rw [readChars, hvalue, Option.bind_eq_bind, Option.bind_some, hishigh]
  simp only [if_true, hvalue', Option.bind_eq_bind, Option.bind_some, hislow]
  exact readChars_bind _ _

/-- A character of a document is read back. -/
theorem faithful_escapedChar : Faithful escapedChar := by
  intro c rest
  rw [escapedChar]
  split
  · rename_i hquote
    apply readChars_escape
    rw [simpleEscape?, if_pos (hquote.elim Or.inl fun h => Or.inr (Or.inl h))]
  · rename_i hquote
    split
    · rename_i h
      rw [h]
      exact readChars_escape rfl
    split
    · rename_i h
      rw [h]
      exact readChars_escape rfl
    split
    · rename_i h
      rw [h]
      exact readChars_escape rfl
    split
    · rename_i h
      rw [← Char.ofNat_toNat c, h]
      exact readChars_escape rfl
    split
    · rename_i h
      rw [← Char.ofNat_toNat c, h]
      exact readChars_escape rfl
    split
    · rename_i h
      rw [readChars_unit (Or.inl (by omega)), Char.ofNat_toNat]
    · rename_i h
      exact readChars_plain (fun h => hquote (Or.inl h)) (fun h => hquote (Or.inr h)) (by omega)

/-- A character of an ASCII document is read back. -/
theorem faithful_asciiEscapedChar : Faithful asciiEscapedChar := by
  intro c rest
  have hvalid := c.valid
  rw [asciiEscapedChar]
  split
  · exact faithful_escapedChar c rest
  · split
    · rename_i h
      rw [readChars_unit, Char.ofNat_toNat]
      rcases hvalid with hlow | ⟨hhigh, -⟩
      · exact Or.inl hlow
      · exact Or.inr ⟨hhigh, h⟩
    · have hlast : c.toNat < 0x110000 := by
        rcases hvalid with hlow | ⟨-, hhigh⟩
        · exact Nat.lt_trans hlow (by decide)
        · exact hhigh
      have hpair : pairChar (0xD800 + (c.toNat - 0x10000) / 1024)
          (0xDC00 + (c.toNat - 0x10000) % 1024) = c := by
        have hunits : 0x10000 + (0xD800 + (c.toNat - 0x10000) / 1024 - 0xD800) * 1024 +
            (0xDC00 + (c.toNat - 0x10000) % 1024 - 0xDC00) = c.toNat := by
          omega
        exact (congrArg Char.ofNat hunits).trans (Char.ofNat_toNat c)
      rw [readChars_pair (by omega) (by omega), hpair]

/-- A text is read back from its written form. -/
theorem readText_writeText {escape : Char → List Char} (hescape : Faithful escape) (s : String)
    (rest : List Char) :
    readText (s.toList.flatMap escape ++ '"' :: rest) = .ok (s, rest) := by
  have hread : ∀ cs, readChars (cs.flatMap escape ++ '"' :: rest) = some (cs, rest) := by
    intro cs
    -- `hescape` reads one written character back, whatever stands behind it.
    induction cs with
    | nil => rw [List.flatMap_nil, List.nil_append, readChars]
    | cons c cs ih =>
        rw [List.flatMap_cons, List.append_assoc, hescape, ih]
        rfl
  rw [readText, hread]
  simp only [String.ofList_toList]

end PhotoCatalog.Json
