import Mathlib.Data.String.Basic
import PhotoCatalog.Proofs.Text.Digit
import PhotoCatalog.Text.Blank

/-!
Numbers of a fixed width.  Filled up with zeros, numbers are ordered as their texts are, and texts
that begin with parts of one length are ordered by these parts first.
-/

namespace PhotoCatalog.Text

variable {c : Char} {cs ds : List Char} {m n width : Nat}

theorem padded_allDigits (width n : Nat) : AllDigits (padded width n).toList := by
  rw [padded, String.toList_ofList]
  exact (AllDigits.zeros _).append (digitsOf_allDigits n)

theorem ofDigitChars_padded (width n : Nat) :
    Nat.ofDigitChars 10 (padded width n).toList 0 = n := by
  rw [padded, String.toList_ofList, Nat.ofDigitChars_append, Nat.ofDigitChars_replicate_zero,
    Nat.mul_zero, digitsOf, Nat.ofDigitChars_ten_toDigits]

theorem padded_length (hpos : 0 < width) (hn : n < 10 ^ width) :
    (padded width n).toList.length = width := by
  have hshort : (digitsOf n).length ≤ width :=
    (Nat.length_toDigits_le_iff (by decide) hpos).mpr hn
  rw [padded, String.toList_ofList, List.length_append, List.length_replicate]
  omega

theorem padded_length_eq (hpos : 0 < width) (hm : m < 10 ^ width) (hn : n < 10 ^ width) :
    (padded width m).toList.length = (padded width n).toList.length :=
  (padded_length hpos hm).trans (padded_length hpos hn).symm

theorem padded_inj : (padded width m).toList = (padded width n).toList ↔ m = n := by
  constructor
  · intro heq
    rw [← ofDigitChars_padded width m, heq, ofDigitChars_padded]
  · rintro rfl
    rfl

theorem ofDigitChars_cons_eq (c : Char) (cs : List Char) :
    Nat.ofDigitChars 10 (c :: cs) 0 = 10 ^ cs.length * digitOf c + Nat.ofDigitChars 10 cs 0 := by
  rw [Nat.ofDigitChars_cons, Nat.ofDigitChars_eq_ofDigitChars_zero, Nat.mul_zero, Nat.zero_add]
  rfl

theorem digitOf_lt_iff {d : Char} (hc : c.isDigit = true) : c < d ↔ digitOf c < digitOf d := by
  obtain ⟨hlow, -⟩ := isDigit_iff.mp hc
  have hlow' : 48 ≤ c.toNat := hlow
  have hless : c < d ↔ c.toNat < d.toNat := Iff.rfl
  rw [hless, digitOf, digitOf]
  omega

theorem digitOf_injective {d : Char} (hc : c.isDigit = true) (hd : d.isDigit = true)
    (heq : digitOf c = digitOf d) : c = d := by
  apply le_antisymm
  · exact not_lt.mp fun h => ((digitOf_lt_iff hd).mp h).ne heq.symm
  · exact not_lt.mp fun h => ((digitOf_lt_iff hc).mp h).ne heq

/-- Digits of one length are ordered as the numbers that they spell. -/
theorem digits_lt_iff (hcs : AllDigits cs) (hds : AllDigits ds) (hlength : cs.length = ds.length) :
    cs < ds ↔ Nat.ofDigitChars 10 cs 0 < Nat.ofDigitChars 10 ds 0 := by
  induction cs generalizing ds with
  | nil =>
      rw [List.length_eq_zero_iff.mp hlength.symm]
      simp
  | cons c cs ih =>
      cases ds with
      | nil => cases hlength
      | cons d ds =>
          have hlength' : cs.length = ds.length := Nat.succ.inj hlength
          obtain ⟨hc, hcs⟩ := List.forall_mem_cons.mp hcs
          obtain ⟨hd, hds⟩ := List.forall_mem_cons.mp hds
          have hcsLess := ofDigitChars_lt hcs
          have hdsLess := ofDigitChars_lt hds
          rw [List.cons_lt_cons_iff, ih hcs hds hlength', ofDigitChars_cons_eq,
            ofDigitChars_cons_eq, digitOf_lt_iff hc]
          rw [hlength'] at hcsLess ⊢
          -- The first digits decide, unless they are the same.
          rcases lt_trichotomy (digitOf c) (digitOf d) with hless | heq | hless
          · have hstep := Nat.mul_le_mul_left (10 ^ ds.length) hless
            rw [Nat.mul_succ] at hstep
            exact iff_of_true (Or.inl hless) (by omega)
          · obtain rfl := digitOf_injective hc hd heq
            simp
          · have hstep := Nat.mul_le_mul_left (10 ^ ds.length) hless
            rw [Nat.mul_succ] at hstep
            refine iff_of_false ?_ (by omega)
            rintro (hmore | ⟨rfl, -⟩)
            · exact hless.not_gt hmore
            · exact hless.ne rfl

theorem padded_lt_iff (hpos : 0 < width) (hm : m < 10 ^ width) (hn : n < 10 ^ width) :
    (padded width m).toList < (padded width n).toList ↔ m < n := by
  rw [digits_lt_iff (padded_allDigits width m) (padded_allDigits width n)
    (padded_length_eq hpos hm hn), ofDigitChars_padded, ofDigitChars_padded]

/-- Beginnings of one length decide first. -/
theorem append_lt_append_iff {α : Type} [LinearOrder α] {as bs cs ds : List α}
    (hlength : as.length = bs.length) :
    as ++ cs < bs ++ ds ↔ as < bs ∨ as = bs ∧ cs < ds := by
  induction as generalizing bs with
  | nil =>
      rw [List.length_eq_zero_iff.mp hlength.symm]
      simp
  | cons a as ih =>
      cases bs with
      | nil => cases hlength
      | cons b bs =>
          rw [List.cons_append, List.cons_append, List.cons_lt_cons_iff, List.cons_lt_cons_iff,
            ih (Nat.succ.inj hlength), List.cons.injEq]
          tauto

theorem exists_padded_two (hn : n < 100) :
    ∃ a b, (padded 2 n).toList = [a, b] ∧ a.isDigit = true ∧ b.isDigit = true := by
  have hdigits := padded_allDigits 2 n
  obtain ⟨a, b, hab⟩ := List.length_eq_two.mp (padded_length (by decide : 0 < 2) hn)
  rw [hab] at hdigits
  exact ⟨a, b, hab, hdigits a (by simp), hdigits b (by simp)⟩

theorem exists_padded_four (hn : n < 10000) :
    ∃ a b c d, (padded 4 n).toList = [a, b, c, d] ∧ AllDigits [a, b, c, d] := by
  have hlength := padded_length (by decide : 0 < 4) (show n < 10 ^ 4 from hn)
  have hdigits := padded_allDigits 4 n
  match hcs : (padded 4 n).toList, hlength with
  | [a, b, c, d], _ => exact ⟨a, b, c, d, rfl, hcs ▸ hdigits⟩

theorem isDecimal_of_isDigit (hc : c.isDigit = true) : isDecimal c = true := by
  rw [isDecimal, digitValue?, if_pos (isDigit_iff.mp hc)]
  rfl

theorem isBlank_of_isDigit (hc : c.isDigit = true) : isBlank c = false := by
  obtain ⟨hlow, hhigh⟩ := isDigit_iff.mp hc
  have hlow' : 48 ≤ c.toNat := hlow
  have hhigh' : c.toNat ≤ 57 := hhigh
  simp only [isBlank, isAsciiBlank, Bool.or_eq_false_iff, Bool.and_eq_false_iff,
    decide_eq_false_iff_not, beq_eq_false_iff_ne]
  omega

theorem trimBy_eq_self {α : Type} {p : α → Bool} {a b : α} (ha : p a = false) (hb : p b = false)
    (xs : List α) : trimBy p (a :: (xs ++ [b])) = a :: (xs ++ [b]) := by
  simp [trimBy, ha, hb]

/-- Nothing is trimmed off a text that begins and ends with a number. -/
theorem trimBy_padded {k : Nat} (hn : n < 10000) (hk : k < 100) (between : List Char) :
    trimBy isBlank ((padded 4 n).toList ++ (between ++ (padded 2 k).toList)) =
      (padded 4 n).toList ++ (between ++ (padded 2 k).toList) := by
  obtain ⟨a, b, c, d, hfirst, hdigits⟩ := exists_padded_four hn
  obtain ⟨e, f, hlast, -, hf⟩ := exists_padded_two hk
  have ha := hdigits a List.mem_cons_self
  have hends : (padded 4 n).toList ++ (between ++ (padded 2 k).toList) =
      a :: ((b :: c :: d :: (between ++ [e])) ++ [f]) := by
    rw [hfirst, hlast]
    simp
  rw [hends]
  exact trimBy_eq_self (isBlank_of_isDigit ha) (isBlank_of_isDigit hf) _

end PhotoCatalog.Text
