import Mathlib.Tactic.Linarith
import PhotoCatalog.Proofs.Number.Parts
import PhotoCatalog.Value.Convert

/-!
How large whole numbers get.  What a numeral spells keeps to the digit limit of numerals, and so does
what a double is rounded to.
-/

namespace PhotoCatalog.Number

open PhotoCatalog.Text

variable {cs rest : List Char} {ds : List Nat} {n : Int} {x : Float}

theorem asciiDigit?_lt {c : Char} {d : Nat} (hdigit : asciiDigit? c = some d) : d < 10 := by
  rw [asciiDigit?] at hdigit
  split at hdigit
  · rename_i hc
    have hle : c.toNat ≤ 57 := hc.2
    cases hdigit
    omega
  · cases hdigit

theorem takeDigits_lt (htake : takeDigits cs = (ds, rest)) : ∀ d ∈ ds, d < 10 := by
  induction cs generalizing ds with
  | nil =>
      cases htake
      exact List.forall_mem_nil _
  | cons c cs ih =>
      rw [takeDigits] at htake
      split at htake
      · rename_i d hd
        cases htake
        exact List.forall_mem_cons.mpr ⟨asciiDigit?_lt hd, ih rfl⟩
      · cases htake
        exact List.forall_mem_nil _

/-- Digits spell a number below the power of ten that their count tells. -/
theorem ofDigits_lt (hds : ∀ d ∈ ds, d < 10) : ofDigits ds < 10 ^ ds.length := by
  have hfold : ∀ start, ds.foldl (fun n d => 10 * n + d) start < (start + 1) * 10 ^ ds.length := by
    induction ds with
    | nil =>
        intro start
        simp
    | cons d ds ih =>
        obtain ⟨hd, hds⟩ := List.forall_mem_cons.mp hds
        intro start
        calc ds.foldl (fun n d => 10 * n + d) (10 * start + d)
            < (10 * start + d + 1) * 10 ^ ds.length := ih hds _
          _ ≤ ((start + 1) * 10) * 10 ^ ds.length := Nat.mul_le_mul_right _ (by omega)
          _ = (start + 1) * 10 ^ (ds.length + 1) := by ring
  have hstart := hfold 0
  rwa [Nat.zero_add, Nat.one_mul] at hstart

theorem natAbs_signed (negative : Bool) (size : Nat) : (signed negative size).natAbs = size := by
  cases negative <;> simp [signed]

theorem natAbs_ofDigits_lt (hds : ∀ d ∈ ds, d < 10) (hlength : ¬ maxDigits < ds.length)
    (negative : Bool) : (signed negative (ofDigits ds)).natAbs < 10 ^ maxDigits := by
  rw [natAbs_signed]
  exact Nat.lt_of_lt_of_le (ofDigits_lt hds)
    (Nat.pow_le_pow_right (by decide) (Nat.le_of_not_lt hlength))

/-- A whole number that is read from a numeral keeps to the limit. -/
theorem intOfAscii?_lt (hread : intOfAscii? cs = some n) : n.natAbs < 10 ^ maxDigits := by
  rw [intOfAscii?] at hread
  obtain ⟨bare, -, hread⟩ := Option.bind_eq_some_iff.mp hread
  dsimp only at hread
  split at hread
  · cases hread
  · rename_i htake
    split at hread
    · cases hread
    · rename_i hlength
      cases hread
      exact natAbs_ofDigits_lt (takeDigits_lt htake) hlength _
  · cases hread

theorem int?_lt {text : String} (hread : int? text = some n) : n.natAbs < 10 ^ maxDigits := by
  obtain ⟨cs, -, hread⟩ := Option.bind_eq_some_iff.mp hread
  exact intOfAscii?_lt hread

theorem intOfBytes?_lt {bytes : List UInt8} (hread : intOfBytes? bytes = some n) :
    n.natAbs < 10 ^ maxDigits := by
  obtain ⟨cs, -, hread⟩ := Option.bind_eq_some_iff.mp hread
  exact intOfAscii?_lt hread

theorem ofBinary_num_lt {significand : Nat} {exponent : Int} (hshort : significand < 2 ^ 53)
    (hgreatest : exponent ≤ 971) : (Ratio.ofBinary significand exponent).num < 10 ^ maxDigits := by
  have hnum : (Ratio.ofBinary significand exponent).num ≤ significand * 2 ^ exponent.toNat := by
    rw [Ratio.ofBinary]
    split
    · exact Nat.le_refl _
    · exact Nat.le_mul_of_pos_right _ (Nat.two_pow_pos _)
  calc (Ratio.ofBinary significand exponent).num
      ≤ significand * 2 ^ exponent.toNat := hnum
    _ < 2 ^ 53 * 2 ^ exponent.toNat := Nat.mul_lt_mul_of_pos_right hshort (Nat.two_pow_pos _)
    _ = 2 ^ (53 + exponent.toNat) := (Nat.pow_add 2 53 _).symm
    _ ≤ 10 ^ (53 + exponent.toNat) := Nat.pow_le_pow_left (by decide) _
    _ ≤ 10 ^ maxDigits := by
        refine Nat.pow_le_pow_right (by decide) ?_
        have hlimit : 1024 ≤ maxDigits := by decide
        omega

/-- A double that is rounded to a whole number keeps to the limit. -/
theorem truncated?_lt (htruncated : truncated? x = some n) : n.natAbs < 10 ^ maxDigits := by
  rw [truncated?] at htruncated
  split at htruncated
  · rename_i negative significand exponent hparts
    obtain ⟨hkind, -⟩ := eq_of_partsOf_finite hparts
    have hsmall : significand < 2 ^ 53 ∧ exponent ≤ 971 := by
      rcases hkind with ⟨rfl, rfl⟩ | hrep
      · decide
      · exact ⟨hrep.short, hrep.greatest⟩
    have hnum := ofBinary_num_lt hsmall.1 hsmall.2
    have hquotient := Nat.div_le_self (Ratio.ofBinary significand exponent).num
      (Ratio.ofBinary significand exponent).den
    cases htruncated
    have hsize : ∀ size : Nat, (if negative = true then -(size : Int) else size).natAbs = size :=
      natAbs_signed negative
    rw [← Int.natCast_ediv, hsize]
    exact Nat.lt_of_le_of_lt hquotient hnum
  · cases htruncated

end PhotoCatalog.Number

namespace PhotoCatalog

open PhotoCatalog.Number

variable {n : Int}

theorem intOfFloat_lt {x : Float} (hread : intOfFloat x = .ok n) : n.natAbs < 10 ^ maxDigits := by
  rw [intOfFloat] at hread
  split at hread
  · cases hread
  · cases hread
  · cases hread
    cases htruncated : truncated? x with
    | none => exact Nat.pow_pos (by decide)
    | some n => exact truncated?_lt htruncated

theorem spelled_eq_ok {α : Type} {o : Option α} {a : α} (hread : spelled o = .ok a) :
    o = some a := by
  cases o with
  | none => cases hread
  | some b =>
      cases hread
      rfl

end PhotoCatalog
