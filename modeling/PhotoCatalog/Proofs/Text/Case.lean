import PhotoCatalog.Pattern.Glob

/-!
Letter case within ASCII.  Characters that are the same up to the case of ASCII letters are the same
under every other comparison too, and between ASCII characters all comparisons agree.
-/

namespace PhotoCatalog.Text

open PhotoCatalog.Pattern

/-- All characters of the text are ASCII. -/
def IsAscii (text : String) : Prop := ∀ c ∈ text.toList, c.toNat < 128

/-- The text holds no NUL character. -/
def IsNulFree (text : String) : Prop := ∀ c ∈ text.toList, c.toNat ≠ 0

instance (text : String) : Decidable (IsAscii text) :=
  List.decidableBAll (fun c : Char => c.toNat < 128) text.toList

instance (text : String) : Decidable (IsNulFree text) :=
  List.decidableBAll (fun c : Char => c.toNat ≠ 0) text.toList

theorem le_iff_toNat_le {c d : Char} : c ≤ d ↔ c.toNat ≤ d.toNat := Iff.rfl

theorem asciiLower_toNat (c : Char) :
    (asciiLower c).toNat = if 65 ≤ c.toNat ∧ c.toNat ≤ 90 then c.toNat + 32 else c.toNat := by
  rw [asciiLower]
  simp only [le_iff_toNat_le, show 'A'.toNat = 65 from rfl, show 'Z'.toNat = 90 from rfl]
  by_cases hupper : 65 ≤ c.toNat ∧ c.toNat ≤ 90
  · have hvalid : (c.toNat + 32).isValidChar := Or.inl (by omega)
    rw [if_pos hupper, if_pos hupper, Char.ofNat, dif_pos hvalid]
    exact UInt32.toNat_ofNatLT
  · rw [if_neg hupper, if_neg hupper]

theorem asciiLower_toNat_lt_iff (c : Char) : (asciiLower c).toNat < 128 ↔ c.toNat < 128 := by
  rw [asciiLower_toNat]
  split <;> omega

/-- Only ASCII letters have another lower case here. -/
theorem asciiLower_eq_self {c : Char} (hbeyond : ¬ c.toNat < 128) : asciiLower c = c := by
  apply Char.toNat_inj.mp
  rw [asciiLower_toNat, if_neg (by omega)]

/-- A mapping that lowers ASCII characters and does not mind which character beyond them it maps
agrees on characters that are the same up to the case of ASCII letters. -/
theorem eq_of_asciiLower_eq {α : Type} {f g : Char → α} {c d : Char}
    (hlower : asciiLower c = asciiLower d) :
    (if c.toNat < 128 then g (asciiLower c) else f c) =
      if d.toNat < 128 then g (asciiLower d) else f d := by
  by_cases hc : c.toNat < 128
  · have hd : d.toNat < 128 := by
      rwa [← asciiLower_toNat_lt_iff, ← hlower, asciiLower_toNat_lt_iff]
    rw [if_pos hc, if_pos hd, hlower]
  · have hd : ¬ d.toNat < 128 := by
      rwa [← asciiLower_toNat_lt_iff, ← hlower, asciiLower_toNat_lt_iff]
    rw [asciiLower_eq_self hc, asciiLower_eq_self hd] at hlower
    rw [hlower]

theorem sameKey_of_sameAscii {c d : Char} (hsame : sameAscii c d = true) : sameKey c d = true := by
  rw [sameAscii, beq_iff_eq] at hsame
  rw [sameKey, beq_iff_eq, caseKey, caseKey]
  exact eq_of_asciiLower_eq (g := id) hsame

theorem foldChar_eq_of_asciiLower_eq {c d : Char} (hlower : asciiLower c = asciiLower d) :
    foldChar c = foldChar d := by
  rw [foldChar, foldChar]
  exact eq_of_asciiLower_eq (g := fun c => [c]) hlower

theorem sameKey_eq_sameAscii {c d : Char} (hc : c.toNat < 128) (hd : d.toNat < 128) :
    sameKey c d = sameAscii c d := by
  rw [sameKey, sameAscii, caseKey, caseKey, if_pos hc, if_pos hd]

/-- Texts that are the same up to the case of ASCII letters have the same folding. -/
theorem flatMap_foldChar_eq {s t : List Char} (hlower : s.map asciiLower = t.map asciiLower) :
    s.flatMap foldChar = t.flatMap foldChar := by
  induction s generalizing t with
  | nil => rw [List.map_eq_nil_iff.mp hlower.symm]
  | cons c s ih =>
      obtain ⟨d, rest, rfl, hd, hrest⟩ := List.map_eq_cons_iff.mp hlower.symm
      rw [List.flatMap_cons, List.flatMap_cons, ih hrest.symm, foldChar_eq_of_asciiLower_eq hd]

theorem flatMap_foldChar_of_ascii {s : List Char} (hs : ∀ c ∈ s, c.toNat < 128) :
    s.flatMap foldChar = s.map asciiLower := by
  induction s with
  | nil => rfl
  | cons c s ih =>
      obtain ⟨hc, hs⟩ := List.forall_mem_cons.mp hs
      rw [List.flatMap_cons, List.map_cons, ih hs, foldChar, if_pos hc]
      rfl

/-- An ASCII character takes one byte. -/
theorem utf8ByteSize_eq_length {text : String} (hascii : IsAscii text) :
    text.utf8ByteSize = text.toList.length := by
  have hsum : ∀ cs : List Char, (∀ c ∈ cs, c.toNat < 128) →
      (String.ofList cs).utf8ByteSize = cs.length := by
    intro cs hcs
    induction cs with
    | nil => rfl
    | cons c cs ih =>
        obtain ⟨hc, hcs⟩ := List.forall_mem_cons.mp hcs
        have hsize : c.utf8Size = 1 := by
          rw [Char.utf8Size_eq_one_iff]
          exact UInt32.le_iff_toNat_le.mpr (by simpa using Nat.le_of_lt_succ hc)
        rw [List.length_cons, ← ih hcs, String.ofList_cons, String.utf8ByteSize_append,
          String.utf8ByteSize_singleton, hsize]
        omega
  rw [← hsum text.toList hascii, String.ofList_toList]

end PhotoCatalog.Text
