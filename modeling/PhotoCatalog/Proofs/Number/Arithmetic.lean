import PhotoCatalog.Proofs.Number.Amount
import PhotoCatalog.Proofs.Number.Parts
import PhotoCatalog.Proofs.Number.Rounding

/-!
Arithmetic on doubles.  The sum, the difference, the product and the quotient of two finite doubles
do not cross a double: they lie on the same side of every double as the exact results.
-/

namespace PhotoCatalog.Number

open Float.Model Float.Model.UnpackedFloat

/-- What a sign multiplies a size with. -/
def signValue (s : Sign) : ℚ := if isMinus s then -1 else 1

/-- The double of an unpacked form. -/
def packed (u : UnpackedFloat) : Float := .ofModel (Float.Model.pack u)

/-- A double that is a finite number. -/
def Amounts (x : Float) (q : ℚ) : Prop := (Amount.float x).extended? = some (.number q)

instance (x : Float) (q : ℚ) : Decidable (Amounts x q) :=
  inferInstanceAs (Decidable (_ = some (Extended.number q)))

/-- The least size that is too large for a finite double. -/
def tooLarge : ℚ := 2 ^ 52 * (2 : ℚ) ^ (972 : Int)

/-- A number that some double is, up to its sign. -/
def IsValue (q : ℚ) : Prop := ∃ m d, IsSize m d ∧ d ≤ 971 ∧ |q| = m * (2 : ℚ) ^ d

/-- A double that does not cross a double on the way from a number. -/
structure Rounded (q : ℚ) (z : Float) : Prop where
  le : ∀ {w r}, Amounts w r → q ≤ r → z ≤ w
  ge : ∀ {w r}, Amounts w r → r ≤ q → w ≤ z

section Values

variable {x w z : Float} {s : Sign} {p q r size : ℚ} {n : Nat} {unit : Int} {u : UnpackedFloat}

theorem IsValue.neg (hvalue : IsValue q) : IsValue (-q) := by
  rw [IsValue, abs_neg]
  exact hvalue

theorem IsValue.lt (hvalue : IsValue q) : q < tooLarge := by
  obtain ⟨m, d, hsize, hd, habs⟩ := hvalue
  calc q ≤ |q| := le_abs_self q
    _ = m * (2 : ℚ) ^ d := habs
    _ < tooLarge := hsize.lt_of_lt (by omega)

/-- The nearest number of units is at most each double that the number is at most. -/
theorem IsNearest.le_value (hnear : IsNearest q n unit) (hvalue : IsValue r) (hle : q ≤ r) :
    n * (2 : ℚ) ^ unit ≤ r := by
  obtain ⟨m, d, hsize, -, habs⟩ := hvalue
  rw [abs_of_nonneg (hnear.nonneg.trans hle)] at habs
  rw [habs] at hle ⊢
  exact hnear.le hsize hle

theorem IsNearest.value_le (hnear : IsNearest q n unit) (hvalue : IsValue r) (hle : r ≤ q) :
    r ≤ n * (2 : ℚ) ^ unit := by
  rcases le_total r 0 with hsign | hsign
  · exact hsign.trans (by positivity)
  · obtain ⟨m, d, hsize, -, habs⟩ := hvalue
    rw [abs_of_nonneg hsign] at habs
    rw [habs] at hle ⊢
    exact hnear.ge hsize hle

theorem unpacked?_finite {m : Nat} {e : Int} (hpos : 0 < m) :
    unpacked? (.finite s m e hpos) = some (.number (signValue s * (m * (2 : ℚ) ^ e))) := by
  cases s <;> rw [unpacked?, rationalOf_eq] <;> rfl

/-- A double of some sign and size is the number, unless it is too large. -/
theorem HasSize.extended?_packed (hu : HasSize s size u) :
    (Amount.float (packed u)).extended? = some (.number (signValue s * size)) ∨
    tooLarge ≤ size ∧
      (Amount.float (packed u)).extended? = some (if isMinus s then .least else .greatest) := by
  rw [extended?_float]
  change unpacked? (UnpackedFloat.unpack Format.binary64 (UnpackedFloat.pack Format.binary64 u)) =
    some (.number (signValue s * size)) ∨ tooLarge ≤ size ∧
    unpacked? (UnpackedFloat.unpack Format.binary64 (UnpackedFloat.pack Format.binary64 u)) = _
  cases hu with
  | zero hsize =>
      left
      subst hsize
      cases s <;> rw [mul_zero] <;> rfl
  | finite hpos hcanonical hsize =>
      rw [unpack_pack_finite hcanonical]
      split
      · rename_i m e hlarge
        right
        have hfull := hcanonical.2.2.resolve_left (by omega)
        constructor
        · have hfull' : (2 : ℚ) ^ 52 ≤ m := by exact_mod_cast hfull
          rw [hsize, tooLarge]
          gcongr
          norm_num
        · cases s <;> rfl
      · left
        rw [unpacked?_finite, hsize]

theorem float_le_of_order {a b : Extended} (hz : (Amount.float z).extended? = some a)
    (hw : (Amount.float w).extended? = some b) (horder : a.order b ≠ .gt) : z ≤ w :=
  float_le_iff.mpr ⟨_, Amount.compare?_eq_some_iff.mpr ⟨a, b, hz, hw, rfl⟩, horder⟩

theorem Amounts.le_iff (hx : Amounts x p) (hw : Amounts w r) : x ≤ w ↔ p ≤ r := by
  rw [Amounts] at hx hw
  rw [float_le_iff, Amount.compare?, hx, hw]
  change (∃ o, some (Extended.order (.number p) (.number r)) = some o ∧ o ≠ .gt) ↔ _
  rw [Extended.order_number]
  simp [compare_le_iff_le]

theorem exponent_unpack (bits : BitVec 64) {m : Nat} {e : Int} {hpos : 0 < m}
    (hfinite : UnpackedFloat.unpack Format.binary64 bits = .finite s m e hpos) : e ≤ 971 := by
  obtain ⟨sign, exponent, mantissa, rfl⟩ := exists_joined bits
  have hexponent := exponent.isLt
  rw [unpack_joined] at hfinite
  split at hfinite
  · split at hfinite <;> cases hfinite
  · rename_i hlast
    have hnot : exponent.toNat ≠ 2047 := fun h => hlast (BitVec.eq_of_toNat_eq h)
    split at hfinite
    · split at hfinite <;> cases hfinite
      decide
    · cases hfinite
      omega

/-- The unpacked form of a finite double. -/
theorem Amounts.hasSize (hx : Amounts x q) :
    ∃ s size, HasSize s size x.toModel.unpack ∧ q = signValue s * size ∧ IsValue q := by
  have hcanonical : IsCanonical x.toModel.unpack := isCanonical_unpack x.toBits.toBitVec
  have hexponent : ∀ s m e hpos, x.toModel.unpack = .finite s m e hpos → e ≤ 971 :=
    fun _ _ _ _ => exponent_unpack x.toBits.toBitVec
  rw [Amounts, extended?_float] at hx
  generalize x.toModel.unpack = u at *
  cases u with
  | notANumber => cases hx
  | infinity s => cases s <;> cases hx
  | zero s =>
      obtain rfl : (0 : ℚ) = q := by
        cases s <;> exact Extended.number.inj (Option.some.inj hx)
      exact ⟨s, 0, .zero rfl, (mul_zero _).symm, 0, -1074, ⟨by decide, le_rfl⟩, by decide, by simp⟩
  | finite s m e hpos =>
      rw [unpacked?_finite, Option.some.injEq, Extended.number.injEq] at hx
      refine ⟨s, _, .finite hpos hcanonical rfl, hx.symm, m, e, ⟨hcanonical.1, hcanonical.2.1⟩,
        hexponent s m e hpos rfl, ?_⟩
      have hsize : (0 : ℚ) ≤ m * (2 : ℚ) ^ e := by positivity
      rw [← hx]
      cases s <;> simp [signValue, isMinus, abs_mul]

theorem Amounts.isValue (hx : Amounts x q) : IsValue q := by
  obtain ⟨s, size, -, -, hvalue⟩ := hx.hasSize
  exact hvalue

/-- A double whose size is the nearest number of units does not cross a double. -/
theorem HasSize.rounded (hnear : IsNearest q n unit) (hu : HasSize s (n * (2 : ℚ) ^ unit) u) :
    Rounded (signValue s * q) (packed u) := by
  have hpositive : signValue .positive = 1 := rfl
  have hnegative : signValue .negative = -1 := rfl
  constructor
  · intro w r hw hle
    have hvalue := hw.isValue
    rcases hu.extended?_packed with hz | ⟨hlarge, hz⟩
    · refine float_le_of_order hz hw ?_
      rw [Extended.order_number, compare_le_iff_le]
      cases s with
      | positive =>
          rw [hpositive, one_mul] at hle ⊢
          exact hnear.le_value hvalue hle
      | negative =>
          rw [hnegative, neg_one_mul, neg_le] at hle ⊢
          exact hnear.value_le hvalue.neg hle
    · cases s with
      | positive =>
          rw [hpositive, one_mul] at hle
          exact absurd (hlarge.trans (hnear.le_value hvalue hle)) hvalue.lt.not_ge
      | negative => exact float_le_of_order hz hw (by simp [Extended.order, isMinus])
  · intro w r hw hle
    have hvalue := hw.isValue
    rcases hu.extended?_packed with hz | ⟨hlarge, hz⟩
    · refine float_le_of_order hw hz ?_
      rw [Extended.order_number, compare_le_iff_le]
      cases s with
      | positive =>
          rw [hpositive, one_mul] at hle ⊢
          exact hnear.value_le hvalue hle
      | negative =>
          rw [hnegative, neg_one_mul, le_neg] at hle ⊢
          exact hnear.le_value hvalue.neg hle
    · cases s with
      | positive => exact float_le_of_order hw hz (by simp [Extended.order, isMinus])
      | negative =>
          rw [hnegative, neg_one_mul, le_neg] at hle
          exact absurd (hlarge.trans (hnear.le_value hvalue.neg hle)) hvalue.neg.lt.not_ge

/-- A double is itself the nearest number of units. -/
theorem HasSize.rounded_self (hu : HasSize s size u) : Rounded (signValue s * size) (packed u) := by
  cases hu with
  | zero hsize =>
      subst hsize
      have hnear : IsNearest 0 0 (-1074) :=
        ⟨le_rfl, by norm_num, by norm_num, le_rfl, Or.inl rfl⟩
      exact HasSize.rounded hnear (.zero (by simp))
  | @finite m e hpos hcanonical hsize =>
      have hunit : (0 : ℚ) < (2 : ℚ) ^ e := by positivity
      subst hsize
      refine HasSize.rounded ⟨by positivity, by linarith, by linarith, hcanonical.2.1, ?_⟩
        (.finite hpos hcanonical rfl)
      refine hcanonical.2.2.imp_right fun hfull => ?_
      gcongr
      exact_mod_cast hfull

theorem rounded_zero (s : Sign) : Rounded 0 (packed (.zero s)) := by
  have hzero := HasSize.rounded_self (.zero rfl : HasSize s 0 (.zero s))
  rwa [mul_zero] at hzero

end Values

section Operations

variable {x y : Float} {p q : ℚ} {s t : Sign} {a b : ℚ} {u v : UnpackedFloat}

theorem signValue_mul (s t : Sign) : signValue (s * t) = signValue s * signValue t := by
  cases s <;> cases t <;> simp [signValue, isMinus]

/-- Products do not cross a double. -/
theorem rounded_mul (hx : Amounts x p) (hy : Amounts y q) : Rounded (p * q) (x * y) := by
  obtain ⟨s, a, hu, rfl, -⟩ := hx.hasSize
  obtain ⟨t, b, hv, rfl, -⟩ := hy.hasSize
  change Rounded _ (packed (UnpackedFloat.mul Format.binary64 x.toModel.unpack y.toModel.unpack))
  generalize x.toModel.unpack = u at *
  generalize y.toModel.unpack = v at *
  cases hu with
  | zero ha =>
      rw [ha, mul_zero, zero_mul]
      cases hv <;> exact rounded_zero _
  | @finite m d hm hcanonical ha =>
      cases hv with
      | zero hb =>
          rw [hb, mul_zero, mul_zero]
          exact rounded_zero _
      | @finite k e hk hcanonical' hb =>
          have hunit : (0 : ℚ) < (2 : ℚ) ^ (d + e) := by positivity
          have hproduct : a * b / (2 : ℚ) ^ (d + e) = (m * k : Nat) := by
            rw [ha, hb, div_eq_iff hunit.ne', zpow_add₀ two_ne_zero]
            push_cast
            ring
          have hready : d + e ≤ -1074 ∨ 2 ^ 52 ≤ m * k := by
            obtain ⟨-, hleast, hfull⟩ := hcanonical
            obtain ⟨-, hleast', hfull'⟩ := hcanonical'
            rcases hfull with rfl | hfull
            · rcases hfull' with rfl | hfull'
              · exact Or.inl (by decide)
              · exact Or.inr (hfull'.trans (Nat.le_mul_of_pos_left k hm))
            · exact Or.inr (hfull.trans (Nat.le_mul_of_pos_right m hk))
          have hnonneg : 0 ≤ a * b := by
            rw [ha, hb]
            positivity
          obtain ⟨n, unit, hnear, hsize⟩ := roundWithAccuracy_spec (s * t) hnonneg
            (hproduct ▸ isCutOff_exact (m * k)) hready
          have hrounded := hsize.rounded hnear
          rw [signValue_mul] at hrounded
          rwa [mul_mul_mul_comm]

theorem signValue_div (s t : Sign) : signValue (s / t) = signValue s / signValue t := by
  have hdiv : s / t = s * t := by cases s <;> cases t <;> rfl
  rw [hdiv, signValue_mul]
  cases s <;> cases t <;> simp [signValue, isMinus]

/-- Quotients do not cross a double. -/
theorem rounded_div (hx : Amounts x p) (hy : Amounts y q) (hq : q ≠ 0) :
    Rounded (p / q) (x / y) := by
  obtain ⟨s, a, hu, rfl, -⟩ := hx.hasSize
  obtain ⟨t, b, hv, rfl, -⟩ := hy.hasSize
  change Rounded _ (packed (UnpackedFloat.div Format.binary64 x.toModel.unpack y.toModel.unpack))
  generalize x.toModel.unpack = u at *
  generalize y.toModel.unpack = v at *
  cases hv with
  | zero hb => exact absurd (by rw [hb, mul_zero]) hq
  | @finite k e hk hcanonical' hb =>
      cases hu with
      | zero ha =>
          rw [ha, mul_zero, zero_div]
          exact rounded_zero _
      | @finite m d hm hcanonical ha =>
          have hk' : (0 : ℚ) < k := by exact_mod_cast hk
          have hnonneg : 0 ≤ a / b := by
            rw [ha, hb]
            positivity
          obtain ⟨places, hcore, hready⟩ := divCore_spec d e hm hk
          have hquotient : a / b / (2 : ℚ) ^ (d - e - places) = (m * 2 ^ places : Nat) / k := by
            have hunit : (0 : ℚ) < (2 : ℚ) ^ d := by positivity
            have hunit' : (0 : ℚ) < (2 : ℚ) ^ e := by positivity
            rw [ha, hb, zpow_sub₀ two_ne_zero, zpow_sub₀ two_ne_zero, zpow_natCast]
            push_cast
            field_simp
          obtain ⟨n, unit, hnear, hsize⟩ := roundWithAccuracy_spec (s / t) hnonneg
            (hquotient ▸ isCutOff_quotient (m * 2 ^ places) hk) hready
          have hrounded := hsize.rounded hnear
          rw [mul_div_mul_comm, ← signValue_div, UnpackedFloat.div, hcore]
          exact hrounded

theorem isNearest_exact_div {m : Nat} (d : Int) :
    IsCutOff (.ofMantissaAndAccuracy m .exact) (m * (2 : ℚ) ^ d / (2 : ℚ) ^ d) := by
  have hunit : (0 : ℚ) < (2 : ℚ) ^ d := by positivity
  rw [mul_div_cancel_right₀ _ hunit.ne']
  exact isCutOff_exact m

theorem rounded_round (s : Sign) {m : Nat} (hm : 0 < m) (d : Int) :
    Rounded (signValue s * (m * (2 : ℚ) ^ d))
      (packed (UnpackedFloat.round Format.binary64 s m d)) := by
  rw [UnpackedFloat.round, targetExponent_total]
  obtain ⟨places, hdecrease, hplaces⟩ :=
    decreaseExponent_spec m d (max ((m.log2 : Int) + d - 52) (-1074))
  rw [hdecrease, ← shifted_value m places d]
  have hready : d - places ≤ -1074 ∨ 2 ^ 52 ≤ m * 2 ^ places := by
    by_cases hleast : d - places ≤ -1074
    · exact Or.inl hleast
    · exact Or.inr (pow_le_shifted hm (by omega))
  obtain ⟨n, unit, hnear, hsize⟩ := roundWithAccuracy_spec s (by positivity)
    (isNearest_exact_div (d - places)) hready
  exact hsize.rounded hnear

theorem rounded_normalize (m : Int) (d : Int) (s : Sign) :
    Rounded (m * (2 : ℚ) ^ d) (packed (UnpackedFloat.normalize Format.binary64 m d s)) := by
  rw [UnpackedFloat.normalize]
  rcases lt_trichotomy m 0 with hsign | rfl | hsign
  · have hrounded := rounded_round .negative (m := (-m).toNat) (by omega) d
    have hcast : (((-m).toNat : Nat) : ℚ) = -m := by
      exact_mod_cast Int.toNat_of_nonneg (by omega)
    rw [hcast] at hrounded
    rw [compare_lt_iff_lt.mpr hsign]
    simpa [signValue, isMinus] using hrounded
  · rw [Int.cast_zero, zero_mul]
    exact rounded_zero s
  · have hrounded := rounded_round .positive (m := m.toNat) (by omega) d
    have hcast : ((m.toNat : Nat) : ℚ) = m := by exact_mod_cast Int.toNat_of_nonneg hsign.le
    rw [hcast] at hrounded
    rw [compare_gt_iff_gt.mpr hsign]
    simpa [signValue, isMinus] using hrounded

theorem signValue_apply (s : Sign) (m : Nat) : ((s.apply m : Int) : ℚ) = signValue s * m := by
  cases s <;> simp [Sign.apply, signValue, isMinus]

/-- Sums do not cross a double, in their unpacked form. -/
theorem HasSize.rounded_add (hu : HasSize s a u) (hv : HasSize t b v) :
    Rounded (signValue s * a + signValue t * b)
      (packed (UnpackedFloat.add Format.binary64 u v)) := by
  cases hu with
  | zero ha =>
      rw [ha, mul_zero, zero_add]
      cases hv with
      | zero hb =>
          rw [hb, mul_zero, UnpackedFloat.add]
          split <;> exact rounded_zero _
      | finite hk hcanonical hb => exact HasSize.rounded_self (.finite hk hcanonical hb)
  | @finite m d hm hcanonical ha =>
      cases hv with
      | zero hb =>
          rw [hb, mul_zero, add_zero]
          exact HasSize.rounded_self (.finite hm hcanonical ha)
      | @finite k e hk hcanonical' hb =>
          obtain ⟨places, hdecrease, hplaces⟩ := decreaseExponent_spec m d (min d e)
          obtain ⟨places', hdecrease', hplaces'⟩ := decreaseExponent_spec k e (min d e)
          have hunit : d - places = min d e := by omega
          have hunit' : e - places' = min d e := by omega
          rw [UnpackedFloat.add, hdecrease, hdecrease', ha, hb, ← shifted_value m places d,
            ← shifted_value k places' e, hunit, hunit', ← mul_assoc, ← mul_assoc, ← add_mul,
            ← signValue_apply, ← signValue_apply, ← Int.cast_add]
          exact rounded_normalize _ _ _

/-- Sums do not cross a double. -/
theorem rounded_add (hx : Amounts x p) (hy : Amounts y q) : Rounded (p + q) (x + y) := by
  obtain ⟨s, a, hu, rfl, -⟩ := hx.hasSize
  obtain ⟨t, b, hv, rfl, -⟩ := hy.hasSize
  exact hu.rounded_add hv

theorem HasSize.neg (hu : HasSize s a u) : HasSize (-s) a u.neg := by
  cases hu with
  | zero ha => exact .zero ha
  | finite hm hcanonical ha => exact .finite hm hcanonical ha

theorem signValue_neg (s : Sign) : signValue (-s) = -signValue s := by
  cases s with
  | negative => exact (neg_neg (1 : ℚ)).symm
  | positive => rfl

theorem sub_eq_add_neg_unpacked (u v : UnpackedFloat) :
    UnpackedFloat.sub Format.binary64 u v = UnpackedFloat.add Format.binary64 u v.neg := by
  cases u with
  | finite s m d hm =>
      cases v with
      | finite t k e hk =>
          have hsign : ∀ n : Int, (-t).apply n = -t.apply n := by
            cases t with
            | negative => exact fun n => (neg_neg n).symm
            | positive => exact fun n => rfl
          change _ = UnpackedFloat.add Format.binary64 (.finite s m d hm) (.finite (-t) k e hk)
          simp only [UnpackedFloat.sub, UnpackedFloat.add, hsign, sub_eq_add_neg]
      | notANumber | infinity _ | zero _ => rfl
  | notANumber | infinity _ | zero _ => cases v <;> rfl

/-- Differences do not cross a double. -/
theorem rounded_sub (hx : Amounts x p) (hy : Amounts y q) : Rounded (p - q) (x - y) := by
  obtain ⟨s, a, hu, rfl, -⟩ := hx.hasSize
  obtain ⟨t, b, hv, rfl, -⟩ := hy.hasSize
  change Rounded _ (packed (UnpackedFloat.sub Format.binary64 x.toModel.unpack y.toModel.unpack))
  rw [sub_eq_add_neg, ← neg_mul, ← signValue_neg, sub_eq_add_neg_unpacked]
  exact hu.rounded_add hv.neg

end Operations

section Kinds

variable {x y w : Float} {q r : ℚ}

/-- A double is no number, infinite, or a finite number. -/
theorem kinds (x : Float) : x = undefined ∨ x = infinity ∨ x = -infinity ∨ ∃ q, Amounts x q := by
  cases hparts : partsOf x with
  | nan => exact Or.inl (eq_of_partsOf_nan hparts)
  | infinite negative =>
      have hx := eq_of_partsOf_infinite hparts
      cases negative with
      | false => exact Or.inr (Or.inl hx)
      | true => exact Or.inr (Or.inr (Or.inl hx))
  | finite negative significand exponent =>
      refine Or.inr (Or.inr (Or.inr ⟨rationalOf negative significand exponent, ?_⟩))
      rw [Amounts, Amount.extended?, hparts]

theorem Amounts.lt_iff (hx : Amounts x q) (hw : Amounts w r) : x < w ↔ q < r := by
  rw [Amounts] at hx hw
  rw [← Amount.float_lt_float_iff, Amount.lt_iff]
  simp [hx, hw, Extended.order_number, compare_lt_iff_lt]

theorem beq_iff : (x == y) = true ↔ (Amount.float x).compare? (.float y) = some .eq := by
  rw [compare?_float]
  change (x.toModel.compare y.toModel == some .eq) = true ↔ _
  exact beq_iff_eq

/-- What is not less than a finite double. -/
theorem cases_of_not_lt (hw : Amounts w r) (hnot : ¬x < w) :
    x = undefined ∨ x = infinity ∨ ∃ q, Amounts x q ∧ r ≤ q := by
  rcases kinds x with hx | hx | rfl | ⟨q, hx⟩
  · exact Or.inl hx
  · exact Or.inr (Or.inl hx)
  · refine absurd (Amount.float_lt_float_iff.mp (Amount.lt_iff.mpr ?_)) hnot
    exact ⟨.least, .number r, by decide, hw, rfl⟩
  · exact Or.inr (Or.inr ⟨q, hx, not_lt.mp fun hless => hnot ((hx.lt_iff hw).mpr hless)⟩)

/-- What is not at most a finite double. -/
theorem cases_of_not_le (hw : Amounts w r) (hnot : ¬x ≤ w) :
    x = undefined ∨ x = infinity ∨ ∃ q, Amounts x q ∧ r < q := by
  rcases kinds x with hx | hx | rfl | ⟨q, hx⟩
  · exact Or.inl hx
  · exact Or.inr (Or.inl hx)
  · have hleast : (Amount.float (-infinity)).extended? = some .least := by decide
    exact absurd (float_le_of_order hleast hw (by simp [Extended.order])) hnot
  · exact Or.inr (Or.inr ⟨q, hx, not_le.mp fun hle => hnot ((hx.le_iff hw).mpr hle)⟩)

/-- What lies between two finite doubles is one. -/
theorem amounts_of_between {v z : Float} {low high : ℚ} (hlow : Amounts v low)
    (hhigh : Amounts w high) (habove : v ≤ z) (hbelow : z ≤ w) :
    ∃ r, Amounts z r ∧ low ≤ r ∧ r ≤ high := by
  obtain ⟨o, hcompare, horder⟩ := float_le_iff.mp habove
  obtain ⟨a, b, ha, hb, rfl⟩ := Amount.compare?_eq_some_iff.mp hcompare
  obtain ⟨o', hcompare', horder'⟩ := float_le_iff.mp hbelow
  obtain ⟨b', c, hb', hc, rfl⟩ := Amount.compare?_eq_some_iff.mp hcompare'
  obtain rfl := Option.some.inj (hb.symm.trans hb')
  obtain rfl := Option.some.inj (hlow.symm.trans ha)
  obtain rfl := Option.some.inj (hhigh.symm.trans hc)
  cases b with
  | least => exact absurd rfl horder
  | greatest => exact absurd rfl horder'
  | number r => exact ⟨r, hb, (hlow.le_iff hb).mp habove, (Amounts.le_iff hb hhigh).mp hbelow⟩

/-- What is rounded between two doubles stays between them. -/
theorem Rounded.between {v z : Float} {low high : ℚ} (hz : Rounded q z) (hlow : Amounts v low)
    (hhigh : Amounts w high) (hle : low ≤ q) (hle' : q ≤ high) :
    ∃ r, Amounts z r ∧ low ≤ r ∧ r ≤ high :=
  amounts_of_between hlow hhigh (hz.ge hlow hle) (hz.le hhigh hle')

theorem unpack_infinity : infinity.toModel.unpack = .infinity .positive := by rfl

theorem unpack_undefined : undefined.toModel.unpack = .notANumber := by rfl

theorem add_infinity (hx : Amounts x q) : x + infinity = infinity := by
  obtain ⟨s, size, hu, -, -⟩ := hx.hasSize
  change packed (UnpackedFloat.add Format.binary64 x.toModel.unpack infinity.toModel.unpack) = _
  rw [unpack_infinity]
  generalize x.toModel.unpack = u at hu
  cases hu <;> rfl

theorem undefined_div (x : Float) : undefined / x = undefined := by
  change packed (UnpackedFloat.div Format.binary64 undefined.toModel.unpack x.toModel.unpack) = _
  rw [unpack_undefined]
  rfl

theorem div_undefined (x : Float) : x / undefined = undefined := by
  change packed (UnpackedFloat.div Format.binary64 x.toModel.unpack undefined.toModel.unpack) = _
  rw [unpack_undefined]
  cases x.toModel.unpack <;> rfl

theorem infinity_div (hx : Amounts x q) (hpos : 0 < q) : infinity / x = infinity := by
  obtain ⟨s, size, hu, rfl, -⟩ := hx.hasSize
  change packed (UnpackedFloat.div Format.binary64 infinity.toModel.unpack x.toModel.unpack) = _
  rw [unpack_infinity]
  generalize x.toModel.unpack = u at hu
  cases hu with
  | zero hsize =>
      rw [hsize, mul_zero] at hpos
      exact absurd hpos (lt_irrefl 0)
  | finite hm hcanonical hsize =>
      cases s with
      | positive => rfl
      | negative =>
          have hsize' : 0 ≤ size := by
            rw [hsize]
            positivity
          simp only [signValue, isMinus, if_true] at hpos
          linarith

theorem div_infinity (hx : Amounts x q) : Amounts (x / infinity) 0 := by
  have hzero : ∀ t, Amounts (packed (.zero t)) 0 := by
    intro t
    cases t <;> decide +kernel
  obtain ⟨s, size, hu, -, -⟩ := hx.hasSize
  change Amounts (packed (UnpackedFloat.div Format.binary64 x.toModel.unpack
    infinity.toModel.unpack)) 0
  rw [unpack_infinity]
  generalize x.toModel.unpack = u at hu
  cases hu <;> exact hzero _

end Kinds

end PhotoCatalog.Number
