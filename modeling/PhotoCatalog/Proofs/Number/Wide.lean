import Mathlib.Algebra.Order.Archimedean.Basic
import PhotoCatalog.Proofs.Number.Ratio

/-!
Numbers rounded to 64 bits.  A rounded number is a whole number of units, the nearest one; so it
stays on the side of every whole number of units on which the exact number lies, it is off by a tiny
part of itself at most, and a number that is a whole number of units stays what it is.
-/

namespace PhotoCatalog.Number

variable {r s : Ratio}

/-- The exponent of the unit that a ratio is rounded to. -/
def Ratio.wideExponent (r : Ratio) : Int := max (-16445) (binaryPoint r + 1 - 64)

theorem Ratio.wide_den_pos (r : Ratio) : 0 < r.wide.den := Ratio.ofBinary_den_pos _ _

/-- A rounded ratio is the nearest whole number of units. -/
theorem Ratio.wide_near (hden : 0 < r.den) : ∃ n : Nat,
    r.wide.value = n * (2 : ℚ) ^ r.wideExponent ∧
      (2 * n - 1) * (2 : ℚ) ^ r.wideExponent ≤ 2 * r.value ∧
        2 * r.value ≤ (2 * n + 1) * (2 : ℚ) ^ r.wideExponent := by
  have hunit := Ratio.ofBinary_value 1 r.wideExponent
  have hunitNum := Ratio.ofBinary_num_pos Nat.one_pos r.wideExponent
  have hunitDen := Ratio.ofBinary_den_pos 1 r.wideExponent
  have hwide : r.wide = .ofBinary (roundDiv (r.num * (Ratio.ofBinary 1 r.wideExponent).den)
      (r.den * (Ratio.ofBinary 1 r.wideExponent).num)) r.wideExponent := rfl
  rw [hwide, Ratio.ofBinary_value]
  generalize Ratio.ofBinary 1 r.wideExponent = unit at hunit hunitNum hunitDen ⊢
  refine ⟨_, rfl, ?_⟩
  obtain ⟨hlow, hhigh⟩ := @roundDiv_near (r.num * unit.den) _ (Nat.mul_pos hden hunitNum)
  generalize roundDiv (r.num * unit.den) (r.den * unit.num) = n at hlow hhigh ⊢
  have hden' : (0 : ℚ) < r.den := by exact_mod_cast hden
  have hunitDen' : (0 : ℚ) < unit.den := by exact_mod_cast hunitDen
  have hlow' : (2 * n * (r.den * unit.num) : ℚ) ≤ 2 * (r.num * unit.den) + r.den * unit.num := by
    exact_mod_cast hlow
  have hhigh' : (2 * (r.num * unit.den) : ℚ) ≤ (2 * n + 1) * (r.den * unit.num) := by
    exact_mod_cast hhigh
  rw [Nat.cast_one, one_mul, Ratio.value] at hunit
  rw [← hunit, Ratio.value, mul_div_assoc', mul_div_assoc', mul_div_assoc']
  constructor
  · rw [div_le_div_iff₀ hunitDen' hden']
    linarith
  · rw [div_le_div_iff₀ hden' hunitDen']
    linarith

/-- The ratio is this number rounded to 64 bits. -/
def Rounds (q : ℚ) (r : Ratio) : Prop := ∃ x : Ratio, 0 < x.den ∧ x.value = q ∧ r = x.wide

theorem Ratio.plus_rounds (hr : 0 < r.den) (hs : 0 < s.den) :
    Rounds (r.value + s.value) (r.plus s) := by
  have hr' : (r.den : ℚ) ≠ 0 := by exact_mod_cast hr.ne'
  have hs' : (s.den : ℚ) ≠ 0 := by exact_mod_cast hs.ne'
  refine ⟨_, Nat.mul_pos hr hs, ?_, rfl⟩
  simp only [Ratio.value, Nat.cast_add, Nat.cast_mul]
  field_simp

theorem Ratio.minus_rounds (hr : 0 < r.den) (hs : 0 < s.den) (hle : s.value ≤ r.value) :
    Rounds (r.value - s.value) (r.minus s) := by
  have hr' : (0 : ℚ) < r.den := by exact_mod_cast hr
  have hs' : (0 : ℚ) < s.den := by exact_mod_cast hs
  have hle' : s.num * r.den ≤ r.num * s.den := by
    rw [Ratio.value, Ratio.value, div_le_div_iff₀ hs' hr'] at hle
    exact_mod_cast hle
  refine ⟨_, Nat.mul_pos hr hs, ?_, rfl⟩
  simp only [Ratio.value, Nat.cast_sub hle', Nat.cast_mul]
  field_simp

theorem Ratio.times_rounds (hr : 0 < r.den) (hs : 0 < s.den) :
    Rounds (r.value * s.value) (r.times s) := by
  refine ⟨_, Nat.mul_pos hr hs, ?_, rfl⟩
  simp only [Ratio.value, Nat.cast_mul]
  rw [mul_div_mul_comm]

theorem Ratio.over_rounds (hr : 0 < r.den) (hs : 0 < s.num) :
    Rounds (r.value / s.value) (r.over s) := by
  refine ⟨_, Nat.mul_pos hr hs, ?_, rfl⟩
  simp only [Ratio.value, Nat.cast_mul]
  rw [div_div_div_eq]

variable {q : ℚ}

theorem Rounds.den_pos (hrounds : Rounds q r) : 0 < r.den := by
  obtain ⟨x, -, -, rfl⟩ := hrounds
  exact x.wide_den_pos

theorem Ratio.num_pos_of_value (hpos : 0 < r.value) : 0 < r.num := by
  by_contra hzero
  obtain hzero : r.num = 0 := by omega
  rw [Ratio.value, hzero, Nat.cast_zero, zero_div] at hpos
  exact lt_irrefl _ hpos

/-- The unit of a number: the number lies in the binade that the unit belongs to, or the unit is the
least one. -/
theorem Ratio.wideExponent_le (hnum : 0 < r.num) (hden : 0 < r.den) {point : Int}
    (hless : r.value < (2 : ℚ) ^ (point + 1)) : r.wideExponent ≤ max (-16445) (point - 63) := by
  have hbelow := (binaryPoint_spec hnum hden).1.trans_lt hless
  have hpoint := (zpow_lt_zpow_iff_right₀ one_lt_two).mp hbelow
  rw [wideExponent]
  omega

/-- A rounded number is a whole number of units, the nearest one; the unit is small enough for the
number. -/
theorem Rounds.near (hrounds : Rounds q r) (hpos : 0 < q) : ∃ (n : Nat) (unit : Int),
    r.value = n * (2 : ℚ) ^ unit ∧ (2 * n - 1) * (2 : ℚ) ^ unit ≤ 2 * q ∧
      2 * q ≤ (2 * n + 1) * (2 : ℚ) ^ unit ∧
      ∀ point : Int, q < (2 : ℚ) ^ (point + 1) → unit ≤ max (-16445) (point - 63) := by
  obtain ⟨x, hden, rfl, rfl⟩ := hrounds
  have hnum := Ratio.num_pos_of_value hpos
  obtain ⟨n, hvalue, hlow, hhigh⟩ := Ratio.wide_near hden
  exact ⟨n, x.wideExponent, hvalue, hlow, hhigh, fun point => Ratio.wideExponent_le hnum hden⟩

/-- Zero stays zero. -/
theorem Rounds.eq_zero (hrounds : Rounds 0 r) : r.value = 0 := by
  obtain ⟨x, hden, hzero, rfl⟩ := hrounds
  obtain ⟨n, hvalue, hlow, -⟩ := Ratio.wide_near hden
  have hunit : (0 : ℚ) < (2 : ℚ) ^ x.wideExponent := by positivity
  rw [hzero, mul_zero] at hlow
  have hnone : n = 0 := by
    by_contra hsome
    have hone : (1 : ℚ) ≤ n := by exact_mod_cast Nat.one_le_iff_ne_zero.mpr hsome
    nlinarith
  rw [hvalue, hnone, Nat.cast_zero, zero_mul]

/-- A number that is rounded does not cross a whole number of units. -/
theorem le_of_near {n m : Nat} {unit : ℚ} (hunit : 0 < unit)
    (hlow : (2 * n - 1) * unit ≤ 2 * q) (hle : q ≤ m * unit) : (n : ℚ) * unit ≤ m * unit := by
  have hless : (2 * n - 1 : ℚ) ≤ 2 * m := by
    have hmul : (2 * n - 1) * unit ≤ (2 * m) * unit := by linarith
    exact le_of_mul_le_mul_right hmul hunit
  have hint : n ≤ m := by
    have hcast : (2 * n : ℚ) < 2 * m + 2 := by linarith
    have hnat : 2 * n < 2 * m + 2 := by exact_mod_cast hcast
    omega
  gcongr

theorem ge_of_near {n m : Nat} {unit : ℚ} (hunit : 0 < unit)
    (hhigh : 2 * q ≤ (2 * n + 1) * unit) (hle : m * unit ≤ q) : (m : ℚ) * unit ≤ n * unit := by
  have hless : (2 * m : ℚ) ≤ 2 * n + 1 := by
    have hmul : (2 * m) * unit ≤ (2 * n + 1) * unit := by linarith
    exact le_of_mul_le_mul_right hmul hunit
  have hint : m ≤ n := by
    have hcast : (2 * m : ℚ) < 2 * n + 2 := by linarith
    have hnat : 2 * m < 2 * n + 2 := by exact_mod_cast hcast
    omega
  gcongr

/-- A whole number of units that are no smaller, in units of a power of two. -/
theorem exists_units {grid unit : Int} (hle : unit ≤ grid) (m : Nat) :
    ∃ k : Nat, (m : ℚ) * (2 : ℚ) ^ grid = k * (2 : ℚ) ^ unit := by
  obtain ⟨d, hd⟩ := Int.eq_ofNat_of_zero_le (show 0 ≤ grid - unit by omega)
  refine ⟨m * 2 ^ d, ?_⟩
  obtain rfl : grid = d + unit := by omega
  rw [zpow_add₀ two_ne_zero, zpow_natCast]
  push_cast
  ring

/-- Below sixteen, sixtieth binary places are whole numbers of units. -/
theorem Rounds.le (hrounds : Rounds q r) (hpos : 0 < q) (hsmall : q < 16) {m : Nat}
    (hle : q ≤ m * (2 : ℚ) ^ (-60 : Int)) : r.value ≤ m * (2 : ℚ) ^ (-60 : Int) := by
  obtain ⟨n, unit, hvalue, hlow, -, hunit⟩ := hrounds.near hpos
  have hfine : unit ≤ -60 := by
    have hbound := hunit 3 (by norm_num; exact hsmall)
    omega
  obtain ⟨k, hk⟩ := exists_units hfine m
  rw [hvalue, hk]
  exact le_of_near (by positivity) hlow (hk ▸ hle)

theorem Rounds.ge (hrounds : Rounds q r) (hsmall : q < 16) {m : Nat} (hm : 0 < m)
    (hle : m * (2 : ℚ) ^ (-60 : Int) ≤ q) : m * (2 : ℚ) ^ (-60 : Int) ≤ r.value := by
  have hpos : 0 < q := lt_of_lt_of_le (by positivity) hle
  obtain ⟨n, unit, hvalue, -, hhigh, hunit⟩ := hrounds.near hpos
  have hfine : unit ≤ -60 := by
    have hbound := hunit 3 (by norm_num; exact hsmall)
    omega
  obtain ⟨k, hk⟩ := exists_units hfine m
  rw [hvalue, hk]
  exact ge_of_near (by positivity) hhigh (hk ▸ hle)

/-- A whole number of units is not changed. -/
theorem eq_of_near {n m : Nat} {unit : ℚ} (hunit : 0 < unit)
    (hlow : (2 * n - 1) * unit ≤ 2 * q) (hhigh : 2 * q ≤ (2 * n + 1) * unit)
    (hq : q = m * unit) : (n : ℚ) * unit = q := by
  apply le_antisymm
  · rw [hq]
    exact le_of_near hunit hlow hq.le
  · rw [hq]
    exact ge_of_near hunit hhigh hq.ge

/-- A number of at most 63 binary places keeps to them. -/
theorem Rounds.places (hrounds : Rounds q r) {m : Nat} (hq : q = m * (2 : ℚ) ^ (-63 : Int)) :
    ∃ k : Nat, r.value = k * (2 : ℚ) ^ (-63 : Int) := by
  rcases Nat.eq_zero_or_pos m with rfl | hm
  · rw [Nat.cast_zero, zero_mul] at hq
    subst hq
    exact ⟨0, by rw [hrounds.eq_zero, Nat.cast_zero, zero_mul]⟩
  · have hpos : 0 < q := by
      rw [hq]
      positivity
    obtain ⟨n, unit, hvalue, hlow, hhigh, -⟩ := hrounds.near hpos
    rcases le_total unit (-63) with hfine | hcoarse
    · obtain ⟨k, hk⟩ := exists_units hfine m
      exact ⟨m, by rw [hvalue, ← hq, eq_of_near (by positivity) hlow hhigh (hq.trans hk)]⟩
    · obtain ⟨k, hk⟩ := exists_units hcoarse n
      exact ⟨k, hvalue.trans hk⟩

/-- A number from one on is rounded to at most 63 binary places. -/
theorem Rounds.places_of_one_le (hrounds : Rounds q r) (hone : 1 ≤ q) :
    ∃ k : Nat, r.value = k * (2 : ℚ) ^ (-63 : Int) := by
  obtain ⟨x, hden, rfl, rfl⟩ := hrounds
  have hnum := Ratio.num_pos_of_value (one_pos.trans_le hone)
  have hpoint : 0 < binaryPoint x + 1 := by
    have hless := hone.trans_lt (binaryPoint_spec hnum hden).2
    exact (one_lt_zpow_iff_right₀ one_lt_two).mp hless
  obtain ⟨n, hvalue, -⟩ := Ratio.wide_near hden
  have hcoarse : -63 ≤ x.wideExponent := by
    rw [Ratio.wideExponent]
    omega
  obtain ⟨k, hk⟩ := exists_units hcoarse n
  exact ⟨k, hvalue.trans hk⟩

/-- A number below one of at most 63 binary places stays what it is. -/
theorem Rounds.exact (hrounds : Rounds q r) {m : Nat} (hq : q = m * (2 : ℚ) ^ (-63 : Int))
    (hsmall : q < 1) : r.value = q := by
  rcases Nat.eq_zero_or_pos m with rfl | hm
  · rw [Nat.cast_zero, zero_mul] at hq
    subst hq
    exact hrounds.eq_zero
  · have hpos : 0 < q := by
      rw [hq]
      positivity
    obtain ⟨n, unit, hvalue, hlow, hhigh, hunit⟩ := hrounds.near hpos
    have hfine : unit ≤ -63 := by
      have hbound := hunit (-1) (by norm_num; exact hsmall)
      omega
    obtain ⟨k, hk⟩ := exists_units hfine m
    rw [hvalue, eq_of_near (by positivity) hlow hhigh (hq.trans hk)]

theorem least_le_one : (2 : ℚ) ^ (-1100 : Int) ≤ 1 :=
  zpow_le_one_of_nonpos₀ one_le_two (by decide)

/-- Rounding changes a number by less than a thousandth of it, and by far less. -/
theorem Rounds.relative (hrounds : Rounds q r) (hq : (2 : ℚ) ^ (-1100 : Int) ≤ q) :
    999 / 1000 * q ≤ r.value ∧ r.value ≤ 1001 / 1000 * q := by
  have hpos : 0 < q := lt_of_lt_of_le (by positivity) hq
  obtain ⟨point, hlow', hhigh'⟩ := exists_mem_Ico_zpow hpos one_lt_two
  obtain ⟨n, unit, hvalue, hlow, hhigh, hunit⟩ := hrounds.near hpos
  have hpoint : -1100 ≤ point := by
    have hless := (zpow_lt_zpow_iff_right₀ one_lt_two).mp (hq.trans_lt hhigh')
    omega
  have hfine : unit ≤ point - 63 := by
    have hbound := hunit point hhigh'
    omega
  have htiny : (2 : ℚ) ^ unit ≤ q / 1000 := by
    have hpower : (2 : ℚ) ^ unit ≤ (2 : ℚ) ^ (point + -63) :=
      zpow_le_zpow_right₀ one_le_two hfine
    have hsplit : (2 : ℚ) ^ (point + -63) = (2 : ℚ) ^ point * (2 : ℚ) ^ (-63 : Int) :=
      zpow_add₀ two_ne_zero _ _
    have hplaces : (2 : ℚ) ^ (-63 : Int) ≤ 1 / 1000 := by norm_num
    calc (2 : ℚ) ^ unit ≤ (2 : ℚ) ^ point * (2 : ℚ) ^ (-63 : Int) := hsplit ▸ hpower
      _ ≤ q * (1 / 1000) := by gcongr
      _ = q / 1000 := by ring
  rw [hvalue]
  constructor <;> linarith

end PhotoCatalog.Number
