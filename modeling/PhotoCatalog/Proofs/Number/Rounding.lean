import PhotoCatalog.Proofs.Number.Order
import PhotoCatalog.Proofs.Number.Wide

/-!
How arithmetic on doubles rounds.  An exact result is cut off to a significand, with two bits that
tell what has been cut off, and this suffices to find the nearest double.  What follows from it, and
what all else rests on, is that rounding does not cross a double: a result is at most each double
that the exact result is at most, and at least each one that the exact result is at least.
-/

namespace PhotoCatalog.Number

open Float.Model Float.Model.UnpackedFloat

section Cut

variable {em : ExtendedMantissa} {x q : ℚ}

/-- What a significand has been cut off from: half a unit has gone when the first bit is set, and
something less than that which is not nothing when the second one is. -/
def IsCutOff (em : ExtendedMantissa) (x : ℚ) : Prop :=
  ∃ rest : ℚ, 0 ≤ rest ∧ rest < 1 / 2 ∧ (em.stickyBit = false ↔ rest = 0) ∧
    x = em.mantissa + (if em.roundBit then 1 / 2 else 0) + rest

theorem IsCutOff.shiftRightOne (hcut : IsCutOff em x) : IsCutOff em.shiftRightOne (x / 2) := by
  obtain ⟨rest, hlow, hhigh, hsticky, rfl⟩ := hcut
  have hsplit : (em.mantissa : ℚ) = 2 * (em.mantissa / 2 : Nat) + (em.mantissa % 2 : Nat) := by
    exact_mod_cast (Nat.div_add_mod em.mantissa 2).symm
  have hlast : ((em.mantissa % 2 : Nat) : ℚ) = if em.mantissa % 2 != 0 then 1 else 0 := by
    rcases Nat.mod_two_eq_zero_or_one em.mantissa with h | h <;> simp [h]
  refine ⟨(if em.roundBit then 1 / 4 else 0) + rest / 2, ?_, ?_, ?_, ?_⟩
  · split <;> linarith
  · split <;> linarith
  · rw [ExtendedMantissa.shiftRightOne, Bool.or_eq_false_iff, hsticky]
    cases em.roundBit
    · simp
    · simp only [Bool.true_eq_false, false_and, if_true, false_iff]
      linarith
  · change _ = ((em.mantissa / 2 : Nat) : ℚ) + (if em.mantissa % 2 != 0 then 1 / 2 else 0) + _
    rw [hsplit, hlast]
    cases em.roundBit <;> cases em.mantissa % 2 != 0 <;> simp <;> ring

theorem IsCutOff.shiftRight (hcut : IsCutOff em x) (places : Nat) :
    IsCutOff (em >>> places) (x / 2 ^ places) := by
  induction places with
  | zero =>
      rw [pow_zero, div_one]
      exact hcut
  | succ n ih =>
      rw [pow_succ, ← div_div]
      exact ih.shiftRightOne

theorem IsCutOff.bounds (hcut : IsCutOff em x) : em.mantissa ≤ x ∧ x < em.mantissa + 1 := by
  obtain ⟨rest, hlow, hhigh, -, rfl⟩ := hcut
  constructor <;> split <;> linarith

/-- The rounded significand lies at most a half apart. -/
theorem IsCutOff.rounded_near (hcut : IsCutOff em x) :
    2 * (em.roundedMantissa : ℚ) - 1 ≤ 2 * x ∧ 2 * x ≤ 2 * em.roundedMantissa + 1 := by
  obtain ⟨m, first, sticky⟩ := em
  obtain ⟨rest, hlow, hhigh, hsticky, rfl⟩ := hcut
  have hparity : m % 2 ≤ 1 := by omega
  have hparity' : ((m % 2 : Nat) : ℚ) ≤ 1 := by exact_mod_cast hparity
  have hparity'' : (0 : ℚ) ≤ ((m % 2 : Nat) : ℚ) := Nat.cast_nonneg _
  cases first <;> cases sticky <;>
    simp only [ExtendedMantissa.roundedMantissa, ExtendedMantissa.accuracy,
      Accuracy.roundToNearestEven, Nat.cast_add, Nat.cast_one, if_true, Bool.false_eq_true,
      if_false, true_iff, reduceCtorEq, false_iff] at hsticky ⊢ <;>
    constructor <;> linarith

theorem isCutOff_exact (m : Nat) : IsCutOff (.ofMantissaAndAccuracy m .exact) m :=
  ⟨0, le_rfl, by norm_num, by simp [ExtendedMantissa.ofMantissaAndAccuracy],
    by simp [ExtendedMantissa.ofMantissaAndAccuracy]⟩

/-- A quotient is cut off from the fraction, whose rest tells what has gone. -/
theorem isCutOff_quotient (num : Nat) {den : Nat} (hden : 0 < den) :
    IsCutOff (.ofMantissaAndAccuracy (num / den) (accuracyOfFraction (num % den) den))
      (num / den) := by
  have hden' : (0 : ℚ) < den := by exact_mod_cast hden
  have hless : ((num % den : Nat) : ℚ) < den := by exact_mod_cast Nat.mod_lt num hden
  have hsplit : (num : ℚ) / den = (num / den : Nat) + ((num % den : Nat) : ℚ) / den := by
    have hnum : (den : ℚ) * (num / den : Nat) + (num % den : Nat) = num := by
      exact_mod_cast Nat.div_add_mod num den
    rw [div_eq_iff hden'.ne', add_mul, div_mul_cancel₀ _ hden'.ne', ← hnum, mul_comm]
  rw [hsplit, accuracyOfFraction]
  generalize num % den = rest at *
  split
  · rename_i hzero
    rw [hzero, Nat.cast_zero, zero_div, add_zero]
    exact isCutOff_exact _
  · rename_i hsome
    have hpos : (0 : ℚ) < (rest : ℚ) / den :=
      div_pos (by exact_mod_cast Nat.pos_of_ne_zero hsome) hden'
    have hone : (rest : ℚ) / den < 1 := (div_lt_one hden').mpr hless
    rcases lt_trichotomy (2 * rest) den with hside | hside | hside
    · have hhalf : (rest : ℚ) / den < 1 / 2 := by
        rw [div_lt_div_iff₀ hden' two_pos, one_mul]
        exact_mod_cast by omega
      rw [Nat.compare_eq_lt.mpr hside]
      exact ⟨_, hpos.le, hhalf, by simpa [ExtendedMantissa.ofMantissaAndAccuracy] using hpos.ne',
        by simp [ExtendedMantissa.ofMantissaAndAccuracy]⟩
    · have hhalf : (rest : ℚ) / den = 1 / 2 := by
        rw [div_eq_div_iff hden'.ne' two_ne_zero, one_mul]
        exact_mod_cast by omega
      rw [Nat.compare_eq_eq.mpr hside, hhalf]
      exact ⟨0, le_rfl, by norm_num, by simp [ExtendedMantissa.ofMantissaAndAccuracy],
        by simp [ExtendedMantissa.ofMantissaAndAccuracy]⟩
    · have hhalf : 1 / 2 < (rest : ℚ) / den := by
        rw [div_lt_div_iff₀ two_pos hden', one_mul]
        exact_mod_cast by omega
      rw [Nat.compare_eq_gt.mpr hside]
      refine ⟨(rest : ℚ) / den - 1 / 2, by linarith, by linarith, ?_, ?_⟩
      · simp only [ExtendedMantissa.ofMantissaAndAccuracy, Bool.true_eq_false, false_iff]
        linarith
      · simp only [ExtendedMantissa.ofMantissaAndAccuracy, if_true]
        ring

end Cut

/-- The exponent of the unit in which doubles are counted that have their first bit here. -/
theorem targetExponent_eq (point : Int) :
    Format.binary64.targetExponent point = max (point - 53) (-1074) := rfl

theorem targetExponent_total (m : Nat) (e : Int) :
    Format.binary64.targetExponent (totalExponent m e) = max (m.log2 + e - 52) (-1074) := by
  rw [targetExponent_eq, totalExponent]
  omega

section Units

variable {q : ℚ} {n m : Nat} {unit d e : Int} {accuracy : Accuracy}

/-- The whole number of units that lies nearest to a number, in the unit of doubles of its size. -/
structure IsNearest (q : ℚ) (n : Nat) (unit : Int) : Prop where
  nonneg : 0 ≤ q
  low : (2 * n - 1) * (2 : ℚ) ^ unit ≤ 2 * q
  high : 2 * q ≤ (2 * n + 1) * (2 : ℚ) ^ unit
  least : -1074 ≤ unit
  fine : unit = -1074 ∨ 2 ^ 52 * (2 : ℚ) ^ unit ≤ q

/-- The size of a double. -/
structure IsSize (m : Nat) (d : Int) : Prop where
  short : m < 2 ^ 53
  least : -1074 ≤ d

theorem IsSize.lt_of_lt (hsize : IsSize m d) (hless : d < unit) :
    m * (2 : ℚ) ^ d < 2 ^ 52 * (2 : ℚ) ^ unit := by
  have hshort : (m : ℚ) < 2 ^ 53 := by exact_mod_cast hsize.short
  calc m * (2 : ℚ) ^ d < 2 ^ 53 * (2 : ℚ) ^ d := by gcongr
    _ = 2 ^ 52 * (2 : ℚ) ^ (d + 1) := by
        rw [zpow_add_one₀ two_ne_zero]
        ring
    _ ≤ 2 ^ 52 * (2 : ℚ) ^ unit := by
        gcongr
        · norm_num
        · omega

theorem IsNearest.le (hnear : IsNearest q n unit) (hsize : IsSize m d)
    (hle : q ≤ m * (2 : ℚ) ^ d) : n * (2 : ℚ) ^ unit ≤ m * (2 : ℚ) ^ d := by
  rcases le_or_gt unit d with hunit | hunit
  · obtain ⟨k, hk⟩ := exists_units hunit m
    rw [hk] at hle ⊢
    exact le_of_near (by positivity) hnear.low hle
  · have hleast := hsize.least
    have hfine := hnear.fine.resolve_left (by omega)
    exact absurd (hfine.trans hle) (hsize.lt_of_lt hunit).not_ge

theorem IsNearest.ge (hnear : IsNearest q n unit) (hsize : IsSize m d)
    (hle : m * (2 : ℚ) ^ d ≤ q) : m * (2 : ℚ) ^ d ≤ n * (2 : ℚ) ^ unit := by
  rcases le_or_gt unit d with hunit | hunit
  · obtain ⟨k, hk⟩ := exists_units hunit m
    rw [hk] at hle ⊢
    exact ge_of_near (by positivity) hnear.high hle
  · have hleast := hsize.least
    have hfine := hnear.fine.resolve_left (by omega)
    refine (hsize.lt_of_lt hunit).le.trans ?_
    exact_mod_cast ge_of_near (m := 2 ^ 52) (by positivity) hnear.high (by exact_mod_cast hfine)

/-- A number that has been cut off in small enough units is cut off further to units of its size. -/
theorem IsCutOff.shiftToTarget (hcut : IsCutOff (.ofMantissaAndAccuracy m accuracy) (q / 2 ^ e))
    (hready : e ≤ -1074 ∨ 2 ^ 52 ≤ m) :
    ∃ em unit, shiftToTargetExponent Format.binary64 m e accuracy = (em, unit) ∧
      unit = max (m.log2 + e - 52) (-1074) ∧ IsCutOff em (q / 2 ^ unit) := by
  have hle : e ≤ max ((m.log2 : Int) + e - 52) (-1074) := by
    rcases hready with hready | hready
    · exact hready.trans (le_max_right _ _)
    · have hlog := (Nat.le_log2 (by omega)).mpr hready
      omega
  have hsteps : e + ((max ((m.log2 : Int) + e - 52) (-1074) - e).toNat : Int) =
      max ((m.log2 : Int) + e - 52) (-1074) := by omega
  rw [shiftToTargetExponent, targetExponent_total, shiftToExponent]
  refine ⟨_, _, rfl, hsteps, ?_⟩
  have hshift := hcut.shiftRight (max ((m.log2 : Int) + e - 52) (-1074) - e).toNat
  rw [div_div, ← zpow_natCast, ← zpow_add₀ two_ne_zero] at hshift
  exact hshift

/-- Rounding a significand to units of its size gives the nearest number of units. -/
theorem IsCutOff.isNearest {em : ExtendedMantissa} (hnonneg : 0 ≤ q)
    (hcut : IsCutOff (.ofMantissaAndAccuracy m accuracy) (q / 2 ^ e))
    (hready : e ≤ -1074 ∨ 2 ^ 52 ≤ m) (hunit : unit = max (m.log2 + e - 52) (-1074))
    (hcut' : IsCutOff em (q / 2 ^ unit)) :
    IsNearest q em.roundedMantissa unit ∧ em.roundedMantissa ≤ 2 ^ 53 := by
  have hpow : (0 : ℚ) < 2 ^ unit := by positivity
  have hpow' : (0 : ℚ) < 2 ^ e := by positivity
  have hmantissa : (ExtendedMantissa.ofMantissaAndAccuracy m accuracy).mantissa = m := by
    rcases accuracy with _ | o
    · rfl
    · cases o <;> rfl
  obtain ⟨hlow, hhigh⟩ := hcut.bounds
  rw [hmantissa, le_div_iff₀ hpow'] at hlow
  rw [hmantissa, div_lt_iff₀ hpow'] at hhigh
  obtain ⟨hnear, hnear'⟩ := hcut'.rounded_near
  refine ⟨⟨hnonneg, ?_, ?_, by omega, ?_⟩, ?_⟩
  · rw [← mul_div_assoc, le_div_iff₀ hpow] at hnear
    exact hnear
  · rw [← mul_div_assoc, div_le_iff₀ hpow] at hnear'
    exact hnear'
  · by_cases hleast : unit = -1074
    · exact Or.inl hleast
    · right
      have hm : m ≠ 0 := by
        rintro rfl
        rw [Nat.log2_zero] at hunit
        rcases hready with hready | hready
        · omega
        · exact absurd hready (by norm_num)
      have hfull : ((2 ^ m.log2 : Nat) : ℚ) ≤ m := by exact_mod_cast Nat.log2_self_le hm
      calc 2 ^ 52 * (2 : ℚ) ^ unit = (2 : ℚ) ^ (52 + unit) := by
            rw [zpow_add₀ two_ne_zero]
            norm_num
        _ = (2 ^ m.log2 : Nat) * (2 : ℚ) ^ e := by
            rw [Nat.cast_pow, ← zpow_natCast, Nat.cast_two, ← zpow_add₀ two_ne_zero]
            congr 1
            omega
        _ ≤ m * (2 : ℚ) ^ e := by gcongr
        _ ≤ q := hlow
  · have hless : q / 2 ^ unit < 2 ^ 53 := by
      have hshort : ((m + 1 : Nat) : ℚ) ≤ (2 ^ (m.log2 + 1) : Nat) := by
        exact_mod_cast Nat.lt_log2_self
      rw [div_lt_iff₀ hpow]
      calc q < (m + 1 : Nat) * (2 : ℚ) ^ e := by exact_mod_cast hhigh
        _ ≤ (2 ^ (m.log2 + 1) : Nat) * (2 : ℚ) ^ e := by gcongr
        _ = (2 : ℚ) ^ ((m.log2 + 1 : Nat) + e) := by
            rw [Nat.cast_pow, ← zpow_natCast, Nat.cast_two, ← zpow_add₀ two_ne_zero]
        _ ≤ (2 : ℚ) ^ (53 + unit) := zpow_le_zpow_right₀ one_le_two (by omega)
        _ = 2 ^ 53 * 2 ^ unit := by
            rw [zpow_add₀ two_ne_zero]
            norm_num
    have hcast : ((2 * em.roundedMantissa : Nat) : ℚ) < (2 * 2 ^ 53 + 1 : Nat) := by
      push_cast
      linarith
    have hnat : 2 * em.roundedMantissa < 2 * 2 ^ 53 + 1 := by exact_mod_cast hcast
    omega

end Units

section Packed

variable {s : Sign} {q size : ℚ} {n m : Nat} {unit e : Int} {accuracy : Accuracy}
  {u : UnpackedFloat}

/-- An unpacked double of this sign and size, which is canonical. -/
inductive HasSize (s : Sign) (size : ℚ) : UnpackedFloat → Prop where
  | zero (hsize : size = 0) : HasSize s size (.zero s)
  | finite {m : Nat} {e : Int} (hpos : 0 < m) (hcanonical : IsCanonical (.finite s m e hpos))
      (hsize : size = m * (2 : ℚ) ^ e) : HasSize s size (.finite s m e hpos)

theorem pow_le_shifted {bits places : Nat} (hm : 0 < m) (hbits : bits ≤ m.log2 + places) :
    2 ^ bits ≤ m * 2 ^ places :=
  calc 2 ^ bits ≤ 2 ^ (m.log2 + places) := Nat.pow_le_pow_right two_pos hbits
    _ = 2 ^ m.log2 * 2 ^ places := pow_add 2 _ _
    _ ≤ m * 2 ^ places := Nat.mul_le_mul_right _ (Nat.log2_self_le hm.ne')

/-- A quotient has enough bits to be rounded. -/
theorem divCore_spec {k : Nat} (d e : Int) (hm : 0 < m) (hk : 0 < k) :
    ∃ places : Nat, divCore Format.binary64 m d k e =
        (m * 2 ^ places / k, d - e - places, accuracyOfFraction (m * 2 ^ places % k) k) ∧
      (d - e - places ≤ -1074 ∨ 2 ^ 52 ≤ m * 2 ^ places / k) := by
  generalize hunit : min (d - e)
    (Format.binary64.targetExponent (totalExponent m d - totalExponent k e)) = unit
  have hplaces : d - e - ((d - e - unit).toNat : Int) = unit := by omega
  refine ⟨(d - e - unit).toNat, ?_, ?_⟩
  · rw [divCore, hunit, Nat.shiftLeft_eq, hplaces]
  · rw [hplaces, Nat.le_div_iff_mul_le hk]
    rw [targetExponent_eq, totalExponent, totalExponent] at hunit
    by_cases hleast : unit ≤ -1074
    · exact Or.inl hleast
    · right
      calc 2 ^ 52 * k ≤ 2 ^ 52 * 2 ^ (k.log2 + 1) := Nat.mul_le_mul_left _ Nat.lt_log2_self.le
        _ = 2 ^ (52 + (k.log2 + 1)) := (pow_add 2 _ _).symm
        _ ≤ m * 2 ^ (d - e - unit).toNat := pow_le_shifted hm (by omega)

/-- A significand that lacks bits gets them by a smaller unit. -/
theorem decreaseExponent_spec (m : Nat) (d unit : Int) :
    ∃ places : Nat, decreaseExponent m d unit = (m * 2 ^ places, d - places) ∧
      (places : Int) = max (d - unit) 0 := by
  refine ⟨(d - unit).toNat, ?_, ?_⟩
  · rw [decreaseExponent, Nat.shiftLeft_eq]
  · omega

theorem shifted_value (m places : Nat) (d : Int) :
    ((m * 2 ^ places : Nat) : ℚ) * (2 : ℚ) ^ (d - places) = m * (2 : ℚ) ^ d := by
  rw [Nat.cast_mul, Nat.cast_pow, Nat.cast_two, mul_assoc, ← zpow_natCast,
    ← zpow_add₀ two_ne_zero, add_sub_cancel]

/-- Where rounding has carried over into one more bit, the last one, which is zero, goes. -/
theorem shiftToTarget_carry (hn : n ≤ 2 ^ 53) (hleast : -1074 ≤ unit) :
    ∃ em d, shiftToTargetExponent Format.binary64 n unit .exact = (em, d) ∧
      IsSize em.mantissa d ∧ em.mantissa * (2 : ℚ) ^ d = n * (2 : ℚ) ^ unit ∧
      (2 ^ 52 ≤ n → 2 ^ 52 ≤ em.mantissa) ∧ (n < 2 ^ 52 → d = unit) := by
  rw [shiftToTargetExponent, targetExponent_total, shiftToExponent]
  rcases hn.lt_or_eq with hless | rfl
  · have hlog : n.log2 ≤ 52 := by
      rcases Nat.eq_zero_or_pos n with rfl | hpos
      · decide
      · exact Nat.lt_succ_iff.mp ((Nat.log2_lt hpos.ne').mpr hless)
    have hsteps : (max ((n.log2 : Int) + unit - 52) (-1074) - unit).toNat = 0 := by omega
    rw [hsteps, Nat.cast_zero, add_zero]
    exact ⟨_, _, rfl, ⟨hless, hleast⟩, rfl, id, fun _ => rfl⟩
  · have hsteps : (max (((2 ^ 53).log2 : Int) + unit - 52) (-1074) - unit).toNat = 1 := by
      rw [Nat.log2_two_pow]
      omega
    rw [hsteps]
    refine ⟨_, _, rfl, ⟨by decide, by omega⟩, ?_, fun _ => by decide, fun h => absurd h (by decide)⟩
    change ((2 ^ 52 : Nat) : ℚ) * (2 : ℚ) ^ (unit + 1) = _
    rw [zpow_add_one₀ two_ne_zero]
    push_cast
    ring

/-- What rounding comes to: a double whose size is the nearest number of units. -/
theorem roundWithAccuracy_spec (s : Sign) (hnonneg : 0 ≤ q)
    (hcut : IsCutOff (.ofMantissaAndAccuracy m accuracy) (q / 2 ^ e))
    (hready : e ≤ -1074 ∨ 2 ^ 52 ≤ m) :
    ∃ n unit, IsNearest q n unit ∧
      HasSize s (n * (2 : ℚ) ^ unit) (roundWithAccuracy Format.binary64 s m e accuracy) := by
  obtain ⟨em, unit, hshift, hunit, hcut'⟩ := hcut.shiftToTarget hready
  obtain ⟨hnear, hn⟩ := hcut.isNearest hnonneg hready hunit hcut'
  obtain ⟨final, d, hcarry, hsize, hvalue, hfull, hsame⟩ := shiftToTarget_carry hn hnear.least
  refine ⟨_, unit, hnear, ?_⟩
  rw [roundWithAccuracy, hshift]
  simp only [hcarry]
  split
  · rename_i hzero
    refine .zero ?_
    rw [← hvalue, hzero, Nat.cast_zero, zero_mul]
  · refine .finite _ ⟨hsize.short, hsize.least, ?_⟩ hvalue.symm
    by_cases hlarge : 2 ^ 52 ≤ em.roundedMantissa
    · exact Or.inr (hfull hlarge)
    · left
      rw [hsame (not_le.mp hlarge)]
      refine hnear.fine.resolve_right fun hfine => hlarge ?_
      have hless : (2 : ℚ) ^ 53 * 2 ^ unit ≤ (2 * em.roundedMantissa + 1) * 2 ^ unit := by
        have hhigh := hnear.high
        linarith
      have hcast := le_of_mul_le_mul_right hless (by positivity)
      have hnat : 2 ^ 53 ≤ 2 * em.roundedMantissa + 1 := by exact_mod_cast hcast
      omega

/-- Packing keeps a canonical double, unless its exponent is too large. -/
theorem unpack_pack_finite {hpos : 0 < m} (hcanonical : IsCanonical (.finite s m e hpos)) :
    UnpackedFloat.unpack Format.binary64 (UnpackedFloat.pack Format.binary64 (.finite s m e hpos)) =
      if 972 ≤ e then .infinity s else .finite s m e hpos := by
  obtain ⟨hshort, hleast, hfull⟩ := hcanonical
  have hbias : ((Format.binary64.exponentBias : Nat) : Int) = 1023 := rfl
  have hbits : Format.binary64.mantissaBits = 53 := rfl
  rw [UnpackedFloat.pack]
  simp only [hbias, hbits]
  by_cases hlarge : 972 ≤ e
  · rw [if_pos hlarge, if_pos (by omega)]
    change UnpackedFloat.unpack Format.binary64 (joined s (-1#11) 0#52) = _
    rw [unpack_joined, if_pos rfl, if_pos rfl]
  · rw [if_neg hlarge, if_neg (by omega)]
    by_cases hnormal : 2 ^ 52 ≤ m
    · have hlog : m.log2 + 1 = 53 := by
        have hlow := (Nat.le_log2 hpos.ne').mpr hnormal
        have hhigh := (Nat.log2_lt hpos.ne').mpr hshort
        omega
      rw [if_pos hlog]
      change UnpackedFloat.unpack Format.binary64
        (joined s (BitVec.ofNat 11 (e + 1023 + 52).toNat) (BitVec.ofNat 52 m)) = _
      have hexponent : (BitVec.ofNat 11 (e + 1023 + 52).toNat).toNat = (e + 1075).toNat := by
        rw [BitVec.toNat_ofNat]
        omega
      have hmantissa : (BitVec.ofNat 52 m).toNat = m - 2 ^ 52 := by
        rw [BitVec.toNat_ofNat]
        omega
      rw [unpack_joined, if_neg, if_neg]
      · simp only [hexponent, hmantissa, UnpackedFloat.finite.injEq, true_and]
        omega
      · rw [← BitVec.toNat_inj, hexponent]
        change (e + 1075).toNat ≠ 0
        omega
      · rw [← BitVec.toNat_inj, hexponent]
        change (e + 1075).toNat ≠ 2047
        omega
    · obtain rfl := hfull.resolve_right hnormal
      have hlog : ¬m.log2 + 1 = 53 := by
        have hlow := (Nat.log2_lt hpos.ne').mpr (not_le.mp hnormal)
        omega
      rw [if_neg hlog]
      change UnpackedFloat.unpack Format.binary64 (joined s 0#11 (BitVec.ofNat 52 m)) = _
      have hmantissa : (BitVec.ofNat 52 m).toNat = m := by
        rw [BitVec.toNat_ofNat]
        omega
      rw [unpack_joined, if_neg (by decide), if_pos rfl, dif_neg]
      · simp only [hmantissa]
      · rw [← BitVec.toNat_inj, hmantissa]
        exact hpos.ne'

end Packed

end PhotoCatalog.Number
