import Mathlib.Tactic.SplitIfs
import PhotoCatalog.Text.Utf8

/-!
UTF-8 there and back.  The bytes of a character lead the decoder from one pause between characters
to the next and give the character, so every text is decoded from its bytes.
-/

namespace PhotoCatalog.Text

variable {missing point least greatest more share byte n : Nat} {rest : List UInt8}

theorem toNat_ofNat_byte (hbyte : byte < 256) : (UInt8.ofNat byte).toNat = byte := by
  rw [UInt8.toNat_ofNat', Nat.mod_eq_of_lt hbyte]

theorem idle_missing : Pending.idle.missing = 0 := rfl

/-- Between characters it does not matter how the last one was read. -/
theorem isUtf8From_complete (bytes : List UInt8) :
    isUtf8From ⟨0, point, least, greatest⟩ bytes = isUtf8From .idle bytes := by
  cases bytes with
  | nil => rfl
  | cons byte rest =>
      rw [isUtf8From, isUtf8From, Pending.next?, if_pos rfl]
      rfl

/-- Whether bytes can stand where they do is not a matter of the code point so far. -/
theorem isUtf8From_point (point' : Nat) (bytes : List UInt8) :
    isUtf8From ⟨missing, point, least, greatest⟩ bytes =
      isUtf8From ⟨missing, point', least, greatest⟩ bytes := by
  cases bytes <;> rfl

/-- Bytes that spell the rest of a character of which this is known, whatever stands behind them. -/
def SpellsFrom (pending : Pending) (bytes : List UInt8) (c : Char) : Prop :=
  ∀ rest, decodeFrom pending (bytes ++ rest) = c :: decodeFrom .idle rest ∧
    isUtf8From pending (bytes ++ rest) = isUtf8From .idle rest

variable {bytes : List UInt8} {c : Char}

/-- A byte that finishes a character. -/
theorem spellsFrom_last (hshare : share < 64) (hleast : least ≤ 0x80 + share)
    (hgreatest : 0x80 + share ≤ greatest) (hpoint : point * 64 + share = n) :
    SpellsFrom ⟨1, point, least, greatest⟩ [UInt8.ofNat (0x80 + share)] (Char.ofNat n) := by
  intro rest
  have hbyte : (UInt8.ofNat (0x80 + share)).toNat = 0x80 + share := toNat_ofNat_byte (by omega)
  rw [List.singleton_append]
  constructor
  · rw [decodeFrom, stepByte, hbyte, if_neg (Nat.succ_ne_zero _), if_pos ⟨hleast, hgreatest⟩,
      if_pos rfl, Nat.add_sub_cancel_left, hpoint]
    rfl
  · rw [isUtf8From, Pending.next?, hbyte, if_neg (Nat.succ_ne_zero _), if_pos ⟨hleast, hgreatest⟩]
    exact isUtf8From_complete rest

/-- A byte that goes on with a character but does not finish it. -/
theorem SpellsFrom.tail (hshare : share < 64) (hleast : least ≤ 0x80 + share)
    (hgreatest : 0x80 + share ≤ greatest)
    (hrest : SpellsFrom ⟨missing + 1, point * 64 + share, 0x80, 0xBF⟩ bytes c) :
    SpellsFrom ⟨missing + 2, point, least, greatest⟩ (UInt8.ofNat (0x80 + share) :: bytes) c := by
  intro rest
  have hbyte : (UInt8.ofNat (0x80 + share)).toNat = 0x80 + share := toNat_ofNat_byte (by omega)
  obtain ⟨hdecode, hsound⟩ := hrest rest
  rw [List.cons_append]
  constructor
  · rw [decodeFrom, stepByte, hbyte, if_neg (Nat.succ_ne_zero _), if_pos ⟨hleast, hgreatest⟩,
      if_neg (by simp), Nat.add_sub_cancel_left]
    exact hdecode
  · rw [isUtf8From, Pending.next?, hbyte, if_neg (Nat.succ_ne_zero _), if_pos ⟨hleast, hgreatest⟩,
      ← hsound]
    exact isUtf8From_point _ _

/-- A byte that leads others. -/
theorem SpellsFrom.lead (hlead : lead? byte = some ⟨more + 1, share, least, greatest⟩)
    (hbyte : byte < 256) (hrest : SpellsFrom ⟨more + 1, share, least, greatest⟩ bytes c) :
    SpellsFrom .idle (UInt8.ofNat byte :: bytes) c := by
  intro rest
  obtain ⟨hdecode, hsound⟩ := hrest rest
  rw [List.cons_append]
  constructor
  · rw [decodeFrom, stepByte, toNat_ofNat_byte hbyte, if_pos idle_missing, beginChar, hlead]
    simp only [if_neg (Nat.succ_ne_zero more)]
    exact hdecode
  · rw [isUtf8From, Pending.next?, toNat_ofNat_byte hbyte, if_pos idle_missing, hlead, ← hsound]
    rfl

theorem lead?_one (hmost : n < 0x80) : lead? n = some ⟨0, n, 0x80, 0xBF⟩ := if_pos hmost

theorem lead?_two (hleast : 0x80 ≤ n) (hmost : n < 0x800) :
    lead? (0xC0 + n / 64) = some ⟨1, n / 64, 0x80, 0xBF⟩ := by
  rw [lead?, if_neg (by omega), if_neg (by omega), if_pos (by omega), Nat.add_sub_cancel_left]

/-- The leading byte of three admits the next one, which spells no overlong form and no half of a
surrogate pair. -/
theorem lead?_three (hleast : 0x800 ≤ n) (hmost : n < 0x10000)
    (hvalid : n < 0xD800 ∨ 0xE000 ≤ n) :
    ∃ least greatest, lead? (0xE0 + n / 4096) = some ⟨2, n / 4096, least, greatest⟩ ∧
      least ≤ 0x80 + n / 64 % 64 ∧ 0x80 + n / 64 % 64 ≤ greatest := by
  rw [lead?, if_neg (by omega), if_neg (by omega), if_neg (by omega)]
  by_cases hfirst : n / 4096 = 0
  · rw [if_pos (by omega), hfirst]
    exact ⟨_, _, rfl, by omega, by omega⟩
  by_cases hhalves : n / 4096 = 13
  · rw [if_neg (by omega), if_pos (by omega), hhalves]
    exact ⟨_, _, rfl, by omega, by omega⟩
  · rw [if_neg (by omega), if_neg (by omega), if_pos (by omega), Nat.add_sub_cancel_left]
    exact ⟨_, _, rfl, by omega, by omega⟩

/-- The leading byte of four admits the next one, which spells no overlong form and nothing beyond
the last code point. -/
theorem lead?_four (hleast : 0x10000 ≤ n) (hmost : n < 0x110000) :
    ∃ least greatest, lead? (0xF0 + n / 262144) = some ⟨3, n / 262144, least, greatest⟩ ∧
      least ≤ 0x80 + n / 4096 % 64 ∧ 0x80 + n / 4096 % 64 ≤ greatest := by
  rw [lead?, if_neg (by omega), if_neg (by omega), if_neg (by omega), if_neg (by omega),
    if_neg (by omega), if_neg (by omega)]
  by_cases hfirst : n / 262144 = 0
  · rw [if_pos (by omega), hfirst]
    exact ⟨_, _, rfl, by omega, by omega⟩
  by_cases hlast : n / 262144 = 4
  · rw [if_neg (by omega), if_neg (by omega), if_pos (by omega), hlast]
    exact ⟨_, _, rfl, by omega, by omega⟩
  · rw [if_neg (by omega), if_pos (by omega), Nat.add_sub_cancel_left]
    exact ⟨_, _, rfl, by omega, by omega⟩

theorem spells_one (hmost : n < 0x80) :
    SpellsFrom .idle [UInt8.ofNat n] (Char.ofNat n) := by
  intro rest
  have hbyte : n < 256 := by omega
  rw [List.singleton_append]
  constructor
  · rw [decodeFrom, stepByte, toNat_ofNat_byte hbyte, if_pos idle_missing, beginChar,
      lead?_one hmost]
    rfl
  · rw [isUtf8From, Pending.next?, toNat_ofNat_byte hbyte, if_pos idle_missing, lead?_one hmost]
    exact isUtf8From_complete rest

theorem spells_two (hleast : 0x80 ≤ n) (hmost : n < 0x800) :
    SpellsFrom .idle [UInt8.ofNat (0xC0 + n / 64), UInt8.ofNat (0x80 + n % 64)]
      (Char.ofNat n) := by
  have hshare : n % 64 < 64 := Nat.mod_lt n (by decide)
  exact .lead (lead?_two hleast hmost) (by omega)
    (spellsFrom_last hshare (by omega) (by omega) (by omega))

theorem spells_three (hleast : 0x800 ≤ n) (hmost : n < 0x10000)
    (hvalid : n < 0xD800 ∨ 0xE000 ≤ n) :
    SpellsFrom .idle [UInt8.ofNat (0xE0 + n / 4096), UInt8.ofNat (0x80 + n / 64 % 64),
      UInt8.ofNat (0x80 + n % 64)] (Char.ofNat n) := by
  obtain ⟨least, greatest, hlead, hbelow, habove⟩ := lead?_three hleast hmost hvalid
  have hshare : ∀ m, m % 64 < 64 := fun m => Nat.mod_lt m (by decide)
  refine .lead hlead (by omega) (.tail (hshare _) hbelow habove ?_)
  exact spellsFrom_last (hshare n) (by omega) (by omega) (by omega)

theorem spells_four (hleast : 0x10000 ≤ n) (hmost : n < 0x110000) :
    SpellsFrom .idle [UInt8.ofNat (0xF0 + n / 262144), UInt8.ofNat (0x80 + n / 4096 % 64),
      UInt8.ofNat (0x80 + n / 64 % 64), UInt8.ofNat (0x80 + n % 64)] (Char.ofNat n) := by
  obtain ⟨least, greatest, hlead, hbelow, habove⟩ := lead?_four hleast hmost
  have hshare : ∀ m, m % 64 < 64 := fun m => Nat.mod_lt m (by decide)
  refine .lead hlead (by omega) (.tail (hshare _) hbelow habove ?_)
  refine .tail (hshare _) (by omega) (by omega) ?_
  exact spellsFrom_last (hshare n) (by omega) (by omega) (by omega)

/-- A character is spelled by its bytes: one case for each number of bytes. -/
theorem spells_encodeChar (c : Char) : SpellsFrom .idle (encodeChar c) c := by
  have hvalid : c.toNat < 0xD800 ∨ 0xE000 ≤ c.toNat := by
    rcases c.valid with hlow | ⟨hhigh, -⟩
    · exact Or.inl hlow
    · exact Or.inr hhigh
  have hmost : c.toNat < 0x110000 := by
    rcases c.valid with hlow | ⟨-, hhigh⟩
    · exact Nat.lt_trans hlow (by decide)
    · exact hhigh
  suffices hspells : SpellsFrom .idle (encodeChar c) (Char.ofNat c.toNat) by
    rwa [Char.ofNat_toNat] at hspells
  rw [encodeChar]
  dsimp only
  split_ifs with hone htwo hthree
  · exact spells_one hone
  · exact spells_two (by omega) htwo
  · exact spells_three (by omega) hthree hvalid
  · exact spells_four (by omega) hmost

/-- Every text is decoded from its bytes. -/
theorem decode?_encode (text : String) : decode? (encode text) = some text := by
  have hall : ∀ cs : List Char, decodeFrom .idle (cs.flatMap encodeChar) = cs ∧
      isUtf8From .idle (cs.flatMap encodeChar) = true := by
    intro cs
    induction cs with
    | nil => exact ⟨rfl, rfl⟩
    | cons c cs ih =>
        obtain ⟨hdecode, hsound⟩ := spells_encodeChar c (cs.flatMap encodeChar)
        rw [List.flatMap_cons, hdecode, hsound, ih.1]
        exact ⟨rfl, ih.2⟩
  obtain ⟨hdecode, hsound⟩ := hall text.toList
  rw [decode?, encode, if_pos hsound, decodeLossy, hdecode, String.ofList_toList]

theorem length_beginChar_le (byte : Nat) : (beginChar replacement byte).1.length ≤ 1 := by
  rw [beginChar]
  split
  · exact Nat.le_refl 1
  · split
    · exact Nat.le_refl 1
    · exact Nat.zero_le 1

theorem length_stepByte_le (state : Pending) (byte : Nat) :
    (stepByte replacement state byte).1.length ≤ 2 := by
  have hbegin := length_beginChar_le byte
  rw [stepByte]
  split_ifs
  · exact Nat.le_succ_of_le hbegin
  · exact Nat.le_succ 1
  · exact Nat.zero_le 2
  · exact Nat.succ_le_succ hbegin

/-- No byte makes more than two characters, and the end makes one at most. -/
theorem length_decodeFrom_le (state : Pending) (bytes : List UInt8) :
    (decodeFrom state bytes).length ≤ 2 * bytes.length + 1 := by
  induction bytes generalizing state with
  | nil =>
      rw [decodeFrom]
      split <;> simp
  | cons byte bytes ih =>
      have hfirst := length_stepByte_le state byte.toNat
      have hrest := ih (stepByte replacement state byte.toNat).2
      rw [decodeFrom, List.length_append, List.length_cons]
      omega

end PhotoCatalog.Text
