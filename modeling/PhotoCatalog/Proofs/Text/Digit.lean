import Mathlib.Data.List.TakeWhile
import Mathlib.Tactic.Linarith
import PhotoCatalog.Number.Numeral

/-!
Texts of decimal digits: the number that they spell, and the digits of a number, which begin with
no zero.
-/

namespace PhotoCatalog.Text

open PhotoCatalog.Number

/-- The value of an ASCII digit, any other character having none in particular. -/
def digitOf (c : Char) : Nat := c.toNat - 48

/-- Whether a text has only digits. -/
def AllDigits (cs : List Char) : Prop := ∀ c ∈ cs, c.isDigit = true

variable {c : Char} {cs ds rest : List Char} {n : Nat}

theorem AllDigits.append (hcs : AllDigits cs) (hds : AllDigits ds) : AllDigits (cs ++ ds) := by
  intro c hc
  rcases List.mem_append.mp hc with hc | hc
  · exact hcs c hc
  · exact hds c hc

theorem AllDigits.of_subset (hds : AllDigits ds) (hsub : cs ⊆ ds) : AllDigits cs :=
  fun c hc => hds c (hsub hc)

theorem AllDigits.zeros (n : Nat) : AllDigits (List.replicate n '0') := by
  intro c hc
  rw [List.eq_of_mem_replicate hc]
  rfl

theorem isDigit_iff : c.isDigit = true ↔ '0' ≤ c ∧ c ≤ '9' := by
  rw [Char.isDigit, Bool.and_eq_true, decide_eq_true_iff, decide_eq_true_iff]
  rfl

theorem ne_of_isDigit {d : Char} (hc : c.isDigit = true) (hd : d.isDigit = false) : c ≠ d := by
  rintro rfl
  exact Bool.false_ne_true (hd.symm.trans hc)

theorem asciiDigit?_of_isDigit (hdigit : c.isDigit = true) : asciiDigit? c = some (digitOf c) :=
  if_pos (isDigit_iff.mp hdigit)

theorem asciiDigit?_of_not_isDigit (hother : c.isDigit = false) : asciiDigit? c = none :=
  if_neg fun h => Bool.false_ne_true (hother.symm.trans (isDigit_iff.mpr h))

/-- Digits are split off up to the first character that is none. -/
theorem takeDigits_append (hcs : AllDigits cs)
    (hrest : ∀ c, rest.head? = some c → c.isDigit = false) :
    takeDigits (cs ++ rest) = (cs.map digitOf, rest) := by
  induction cs with
  | nil =>
      cases rest with
      | nil => rfl
      | cons c rest =>
          rw [List.nil_append, takeDigits, asciiDigit?_of_not_isDigit (hrest c rfl)]
          rfl
  | cons c cs ih =>
      have htail := ih fun d hd => hcs d (List.mem_cons_of_mem c hd)
      rw [List.cons_append, takeDigits, asciiDigit?_of_isDigit (hcs c List.mem_cons_self), htail]
      rfl

theorem ofDigits_map : ofDigits (cs.map digitOf) = Nat.ofDigitChars 10 cs 0 := by
  rw [ofDigits, List.foldl_map]
  rfl

theorem digitsOf_allDigits (n : Nat) : AllDigits (digitsOf n) := fun _ hc =>
  Nat.isDigit_of_mem_toDigits (by decide) (by decide) hc

theorem ofDigits_digitsOf (n : Nat) : ofDigits ((digitsOf n).map digitOf) = n := by
  rw [ofDigits_map, digitsOf, Nat.ofDigitChars_ten_toDigits]

/-- Digits spell a number below the power of ten that their count tells. -/
theorem ofDigitChars_lt (hcs : AllDigits cs) : Nat.ofDigitChars 10 cs 0 < 10 ^ cs.length := by
  induction cs with
  | nil => simp
  | cons c cs ih =>
      have htail := ih fun d hd => hcs d (List.mem_cons_of_mem c hd)
      have hdigit : c.toNat - '0'.toNat ≤ 9 := by
        obtain ⟨-, hle⟩ := isDigit_iff.mp (hcs c List.mem_cons_self)
        have hle' : c.toNat ≤ 57 := hle
        change c.toNat - 48 ≤ 9
        omega
      rw [Nat.ofDigitChars_cons, Nat.ofDigitChars_eq_ofDigitChars_zero, List.length_cons,
        Nat.pow_succ]
      nlinarith [Nat.mul_le_mul_left (10 ^ cs.length) hdigit]

/-- A positive number has as many digits as tell its power of ten. -/
theorem digitsOf_length (hpos : 0 < n) :
    10 ^ ((digitsOf n).length - 1) ≤ n ∧ n < 10 ^ (digitsOf n).length := by
  have hlength : 0 < (digitsOf n).length := Nat.length_toDigits_pos
  constructor
  · by_contra hless
    rcases Nat.eq_zero_or_pos ((digitsOf n).length - 1) with hone | hmore
    · rw [hone] at hless
      omega
    · have h := (Nat.length_toDigits_le_iff (by decide) hmore).mpr (not_le.mp hless)
      change (digitsOf n).length ≤ _ at h
      omega
  · exact (Nat.length_toDigits_le_iff (by decide) hlength).mp (le_refl _)

/-- The digits of a positive number begin with another one than zero. -/
theorem digitsOf_head (hpos : 0 < n) : ∃ c cs, digitsOf n = c :: cs ∧ c ≠ '0' := by
  obtain ⟨hlow, -⟩ := digitsOf_length hpos
  have hspell := ofDigits_digitsOf n
  have hdigits := digitsOf_allDigits n
  rw [ofDigits_map] at hspell
  cases hcs : digitsOf n with
  | nil => exact absurd hcs Nat.toDigits_ne_nil
  | cons c cs =>
      refine ⟨c, cs, rfl, ?_⟩
      rintro rfl
      rw [hcs] at hlow hspell hdigits
      have hless := ofDigitChars_lt fun d hd => hdigits d (List.mem_cons_of_mem '0' hd)
      rw [Nat.ofDigitChars_cons] at hspell
      change Nat.ofDigitChars 10 cs 0 = n at hspell
      rw [List.length_cons, Nat.add_sub_cancel] at hlow
      omega

/-- Only zeros are dropped from the end. -/
theorem dropZeros_append (cs : List Char) : ∃ k, cs = dropZeros cs ++ List.replicate k '0' := by
  refine ⟨(cs.reverse.takeWhile (· == '0')).length, ?_⟩
  have hzeros : cs.reverse.takeWhile (· == '0') =
      List.replicate (cs.reverse.takeWhile (· == '0')).length '0' := by
    apply List.eq_replicate_of_mem
    intro c hc
    simpa using List.mem_takeWhile_imp hc
  have hsplit := congrArg List.reverse
    (List.takeWhile_append_dropWhile (p := (· == '0')) (l := cs.reverse))
  rw [List.reverse_append, List.reverse_reverse, hzeros, List.reverse_replicate] at hsplit
  rw [dropZeros]
  exact hsplit.symm

end PhotoCatalog.Text
