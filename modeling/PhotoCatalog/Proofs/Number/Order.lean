import PhotoCatalog.Number.Order
import PhotoCatalog.Proofs.Number.Bits
import PhotoCatalog.Proofs.Number.Ratio

/-!
The exact order of doubles.  It is the order that doubles have by themselves, since of two doubles
of one sign the one with the greater exponent is the greater one, and it is transitive, the
infinities included.
-/

namespace PhotoCatalog.Number

open Float.Model Float.Model.UnpackedFloat

theorem Extended.order_number (q r : ℚ) : (number q).order (number r) = compare q r :=
  (LinearOrder.compare_eq_compareOfLessAndEq q r).symm

theorem Extended.order_swap (a b : Extended) : (a.order b).swap = b.order a := by
  cases a with
  | number q =>
    cases b with
    | number r =>
      rw [order_number, order_number]
      exact Std.OrientedOrd.eq_swap.symm
    | least | greatest => rfl
  | least | greatest => cases b <;> rfl

/-- What is not below one bound is not below a lesser one. -/
theorem Extended.order_ne_lt_of_le {a b c : Extended} (hbound : a.order b ≠ .gt)
    (hreaches : c.order b ≠ .lt) : c.order a ≠ .lt := by
  cases a with
  | least => cases c <;> simp [order]
  | number q =>
    cases b with
    | least => exact absurd rfl hbound
    | number r =>
      cases c with
      | least => exact absurd rfl hreaches
      | number s =>
        rw [order_number, compare_le_iff_le] at hbound
        rw [order_number, compare_ge_iff_ge] at hreaches ⊢
        exact hbound.trans hreaches
      | greatest => simp [order]
    | greatest =>
      cases c with
      | greatest => simp [order]
      | least | number => exact absurd rfl hreaches
  | greatest =>
    cases b with
    | least | number => exact absurd rfl hbound
    | greatest => exact hreaches

theorem rationalOf_eq (negative : Bool) (significand : Nat) (exponent : Int) :
    rationalOf negative significand exponent =
      (if negative then -1 else 1) * (significand * (2 : ℚ) ^ exponent) := by
  have hsize : mkRat (Ratio.ofBinary significand exponent).num
      (Ratio.ofBinary significand exponent).den = significand * (2 : ℚ) ^ exponent := by
    rw [← Ratio.ofBinary_value, Ratio.value, Rat.mkRat_eq_div]
    rfl
  cases negative <;> simp [rationalOf, hsize]

/-- What an unpacked double amounts to. -/
def unpacked? : UnpackedFloat → Option Extended
  | .notANumber => none
  | .infinity .negative => some .least
  | .infinity .positive => some .greatest
  | .zero _ => some (.number 0)
  | .finite .negative significand exponent _ =>
    some (.number (rationalOf true significand exponent))
  | .finite .positive significand exponent _ =>
    some (.number (rationalOf false significand exponent))

/-- Doubles have 53 bits, of which the first one is set unless the exponent is the least one. -/
def IsCanonical : UnpackedFloat → Prop
  | .finite _ significand exponent _ =>
    significand < 2 ^ 53 ∧ -1074 ≤ exponent ∧ (exponent = -1074 ∨ 2 ^ 52 ≤ significand)
  | _ => True

theorem isCanonical_unpack (bits : BitVec 64) :
    IsCanonical (UnpackedFloat.unpack Format.binary64 bits) := by
  obtain ⟨sign, exponent, mantissa, rfl⟩ := exists_joined bits
  have hmantissa := mantissa.isLt
  rw [unpack_joined]
  split
  · split <;> trivial
  · split
    · split
      · trivial
      · exact ⟨by omega, le_rfl, Or.inl rfl⟩
    · rename_i hzero
      have hpositive : exponent.toNat ≠ 0 := fun h => hzero (BitVec.eq_of_toNat_eq h)
      exact ⟨by omega, by omega, Or.inr (by omega)⟩

/-- The sign of a double is its first bit. -/
def isMinus : Sign → Bool
  | .negative => true
  | .positive => false

theorem partsOf_joined {x : Float} {sign : Sign} {exponent : BitVec 11} {mantissa : BitVec 52}
    (hjoined : x.toBits.toBitVec = joined sign exponent mantissa) :
    partsOf x =
      if exponent = -1#11 then
        if mantissa = 0#52 then .infinite (isMinus sign) else .nan
      else if exponent = 0#11 then .finite (isMinus sign) mantissa.toNat (-1074)
      else .finite (isMinus sign) (2 ^ 52 + mantissa.toNat) (exponent.toNat - 1075) := by
  have hbits : x.toBits.toNat =
      sign.toBitVec.toNat * 2 ^ 63 + exponent.toNat * 2 ^ 52 + mantissa.toNat := by
    rw [← joined_toNat, ← hjoined]
    rfl
  have hexponent := exponent.isLt
  have hmantissa := mantissa.isLt
  have hsign := sign.toBitVec.isLt
  have hminus : decide (2 ^ 63 ≤ x.toBits.toNat) = isMinus sign := by
    rw [hbits]
    cases sign with
    | negative => exact decide_eq_true (by change _ ≤ 1 * 2 ^ 63 + _ + _; omega)
    | positive => exact decide_eq_false (by change ¬ _ ≤ 0 * 2 ^ 63 + _ + _; omega)
  have hbiased : x.toBits.toNat / 2 ^ 52 % 2 ^ 11 = exponent.toNat := by omega
  have hfraction : x.toBits.toNat % 2 ^ 52 = mantissa.toNat := by omega
  have hlast : exponent.toNat = 2047 ↔ exponent = -1#11 := by
    rw [← BitVec.toNat_inj]
    rfl
  have hzero : exponent.toNat = 0 ↔ exponent = 0#11 := by
    rw [← BitVec.toNat_inj]
    rfl
  have hnone : mantissa.toNat = 0 ↔ mantissa = 0#52 := by
    rw [← BitVec.toNat_inj]
    rfl
  simp only [partsOf, hminus, hbiased, hfraction, hlast, hzero, hnone]

/-- A double amounts to what its unpacked form amounts to. -/
theorem extended?_float (x : Float) :
    (Amount.float x).extended? = unpacked? x.toModel.unpack := by
  obtain ⟨sign, exponent, mantissa, hjoined⟩ := exists_joined x.toBits.toBitVec
  change _ = unpacked? (UnpackedFloat.unpack Format.binary64 x.toBits.toBitVec)
  rw [hjoined, unpack_joined, Amount.extended?, partsOf_joined hjoined]
  by_cases hlast : exponent = -1#11
  · rw [if_pos hlast, if_pos hlast]
    by_cases hnone : mantissa = 0#52
    · rw [if_pos hnone, if_pos hnone]
      cases sign <;> rfl
    · rw [if_neg hnone, if_neg hnone]
      rfl
  · rw [if_neg hlast, if_neg hlast]
    by_cases hzero : exponent = 0#11
    · rw [if_pos hzero, if_pos hzero]
      by_cases hnone : mantissa = 0#52
      · rw [dif_pos hnone, hnone]
        simp [rationalOf_eq, unpacked?]
      · rw [dif_neg hnone]
        cases sign <;> rfl
    · rw [if_neg hzero, if_neg hzero]
      cases sign <;> rfl

/-- Of two doubles of one sign, the one with the greater exponent is the greater one. -/
theorem compare_sizes {m n : Nat} {d e : Int} (hm : m < 2 ^ 53) (hn : n < 2 ^ 53)
    (hd : -1074 ≤ d) (he : -1074 ≤ e) (hmfull : d = -1074 ∨ 2 ^ 52 ≤ m)
    (hnfull : e = -1074 ∨ 2 ^ 52 ≤ n) :
    (compare d e).then (compare m n) = compare (m * (2 : ℚ) ^ d) (n * (2 : ℚ) ^ e) := by
  have hless : ∀ {m n : Nat} {d e : Int}, m < 2 ^ 53 → -1074 ≤ d → 2 ^ 52 ≤ n → d < e →
      m * (2 : ℚ) ^ d < n * (2 : ℚ) ^ e := by
    intro m n d e hm hd hn hless
    calc m * (2 : ℚ) ^ d < 2 ^ 53 * (2 : ℚ) ^ d := by
          gcongr
          exact_mod_cast hm
      _ = 2 ^ 52 * (2 : ℚ) ^ (d + 1) := by
          rw [zpow_add_one₀ two_ne_zero]
          ring
      _ ≤ n * (2 : ℚ) ^ e := by
          gcongr
          · exact_mod_cast hn
          · norm_num
          · omega
  rcases lt_trichotomy d e with hde | rfl | hde
  · rw [compare_lt_iff_lt.mpr hde, compare_lt_iff_lt.mpr (hless hm hd (by omega) hde)]
    rfl
  · have hpow : (0 : ℚ) < (2 : ℚ) ^ d := by positivity
    rw [compare_eq_iff_eq.mpr rfl]
    rcases lt_trichotomy m n with hmn | rfl | hmn
    · rw [compare_lt_iff_lt.mpr hmn, compare_lt_iff_lt.mpr (by gcongr)]
      rfl
    · rw [compare_eq_iff_eq.mpr rfl, compare_eq_iff_eq.mpr rfl]
      rfl
    · rw [compare_gt_iff_gt.mpr hmn, compare_gt_iff_gt.mpr (by gcongr)]
      rfl
  · rw [compare_gt_iff_gt.mpr hde, compare_gt_iff_gt.mpr (hless hn he (by omega) hde)]
    rfl

theorem rationalOf_pos {significand : Nat} (hpos : 0 < significand) (exponent : Int) :
    0 < rationalOf false significand exponent := by
  rw [rationalOf_eq]
  have : (0 : ℚ) < significand := by exact_mod_cast hpos
  simp
  positivity

theorem rationalOf_neg (significand : Nat) (exponent : Int) :
    rationalOf true significand exponent = -rationalOf false significand exponent := by
  simp [rationalOf_eq]

theorem compare_neg (q r : ℚ) : compare (-q) (-r) = (compare q r).swap := by
  rcases lt_trichotomy q r with hless | rfl | hless
  · rw [compare_lt_iff_lt.mpr hless, compare_gt_iff_gt.mpr (neg_lt_neg hless)]
    rfl
  · rw [compare_eq_iff_eq.mpr rfl, compare_eq_iff_eq.mpr rfl]
    rfl
  · rw [compare_gt_iff_gt.mpr hless, compare_lt_iff_lt.mpr (neg_lt_neg hless)]
    rfl

/-- Unpacked doubles are ordered as what they amount to. -/
theorem compare_eq_order {u v : UnpackedFloat} (hu : IsCanonical u) (hv : IsCanonical v) :
    u.compare v = (unpacked? u).bind fun a => (unpacked? v).map a.order := by
  cases u with
  | notANumber => rfl
  | infinity s =>
    cases v with
    | notANumber => cases s <;> rfl
    | infinity s' => cases s <;> cases s' <;> rfl
    | zero s' => cases s <;> rfl
    | finite s' n e hn => cases s <;> cases s' <;> rfl
  | zero s =>
    cases v with
    | notANumber => cases s <;> rfl
    | infinity s' => cases s <;> cases s' <;> rfl
    | zero s' => rfl
    | finite s' n e hn =>
      have hpos := rationalOf_pos hn e
      cases s' with
      | negative =>
        change some Ordering.gt = some _
        rw [Extended.order_number, rationalOf_neg, compare_gt_iff_gt.mpr (neg_neg_of_pos hpos)]
      | positive =>
        change some Ordering.lt = some _
        rw [Extended.order_number, compare_lt_iff_lt.mpr hpos]
  | finite s m d hm =>
    have hpos := rationalOf_pos hm d
    cases v with
    | notANumber => cases s <;> rfl
    | infinity s' => cases s <;> cases s' <;> rfl
    | zero s' =>
      cases s with
      | negative =>
        change some Ordering.lt = some _
        rw [Extended.order_number, rationalOf_neg, compare_lt_iff_lt.mpr (neg_neg_of_pos hpos)]
      | positive =>
        change some Ordering.gt = some _
        rw [Extended.order_number, compare_gt_iff_gt.mpr hpos]
    | finite s' n e hn =>
      have hpos' := rationalOf_pos hn e
      have hsizes := compare_sizes hu.1 hv.1 hu.2.1 hv.2.1 hu.2.2 hv.2.2
      have hsize : ∀ m e, rationalOf false m e = m * (2 : ℚ) ^ e := by simp [rationalOf_eq]
      rw [← hsize, ← hsize] at hsizes
      cases s with
      | negative =>
        cases s' with
        | negative =>
          change some ((compare d e).then (compare m n)).swap = some _
          rw [Extended.order_number, rationalOf_neg, rationalOf_neg, compare_neg, hsizes]
        | positive =>
          change some Ordering.lt = some _
          rw [Extended.order_number, rationalOf_neg,
            compare_lt_iff_lt.mpr ((neg_neg_of_pos hpos).trans hpos')]
      | positive =>
        cases s' with
        | negative =>
          change some Ordering.gt = some _
          rw [Extended.order_number, rationalOf_neg,
            compare_gt_iff_gt.mpr ((neg_neg_of_pos hpos').trans hpos)]
        | positive =>
          change some ((compare d e).then (compare m n)) = some _
          rw [Extended.order_number, hsizes]

/-- Doubles are ordered exactly. -/
theorem compare?_float (x y : Float) :
    (Amount.float x).compare? (Amount.float y) = x.toModel.compare y.toModel := by
  have horder := compare_eq_order (isCanonical_unpack x.toBits.toBitVec)
    (isCanonical_unpack y.toBits.toBitVec)
  change x.toModel.compare y.toModel = (unpacked? x.toModel.unpack).bind fun a =>
    (unpacked? y.toModel.unpack).map a.order at horder
  rw [horder, ← extended?_float, ← extended?_float, Amount.compare?]
  cases (Amount.float x).extended? <;> cases (Amount.float y).extended? <;> rfl

/-- A double is at most another one when both are numbers, in this order. -/
theorem float_le_iff {x y : Float} :
    x ≤ y ↔ ∃ o, (Amount.float x).compare? (.float y) = some o ∧ o ≠ .gt := by
  change decide (x.toModel ≤ y.toModel) = true ↔ _
  rw [decide_eq_true_iff, compare?_float]
  change (x.toModel.compare y.toModel).any (·.isLE) = true ↔ _
  cases x.toModel.compare y.toModel with
  | none => simp
  | some o => cases o <;> simp

theorem Amount.compare?_eq_some_iff {m n : Amount} {o : Ordering} :
    m.compare? n = some o ↔
      ∃ a b, m.extended? = some a ∧ n.extended? = some b ∧ a.order b = o := by
  rw [compare?]
  cases m.extended? <;> cases n.extended? <;> simp

theorem isNaN_eq_false_iff {x : Float} :
    isNaN x = false ↔ ∃ a, (Amount.float x).extended? = some a := by
  rw [isNaN, beq_eq_false_iff_ne, Amount.extended?]
  cases partsOf x <;> simp

/-- A double is at most itself unless it is not a number. -/
theorem float_le_self_iff {x : Float} : x ≤ x ↔ isNaN x = false := by
  rw [float_le_iff, isNaN_eq_false_iff]
  constructor
  · rintro ⟨o, hcompare, -⟩
    obtain ⟨a, -, ha, -, -⟩ := Amount.compare?_eq_some_iff.mp hcompare
    exact ⟨a, ha⟩
  · rintro ⟨a, ha⟩
    refine ⟨a.order a, Amount.compare?_eq_some_iff.mpr ⟨a, a, ha, ha, rfl⟩, fun hgreater => ?_⟩
    have hswap := a.order_swap a
    rw [hgreater] at hswap
    exact absurd hswap (by decide)

end PhotoCatalog.Number
