import PhotoCatalog.Proofs.Number.Order

/-!
Numbers of both kinds in order.  Whole numbers and doubles are compared exactly, so that the order
is total and transitive on everything that is a number.
-/

namespace PhotoCatalog.Number

variable {l m n : Amount} {x y : Float}

/-- The exact order of numbers.  A double that is not a number has no place in it. -/
instance : LE Amount := ⟨fun m n => ∃ o, m.compare? n = some o ∧ o ≠ .gt⟩

instance : LT Amount := ⟨fun m n => m.compare? n = some .lt⟩

instance (m n : Amount) : Decidable (m < n) :=
  inferInstanceAs (Decidable (m.compare? n = some .lt))

instance (m n : Amount) : Decidable (m ≤ n) :=
  decidable_of_iff ((m.compare? n).any (· != .gt) = true) (by simp [LE.le, Option.any_eq_true])

/-- The greater one of two numbers, and the first one when neither is greater. -/
instance : Max Amount := ⟨fun m n => if m < n then n else m⟩

/-- Whether it is a double that is not a number. -/
def Amount.isNaN : Amount → Bool
  | .int _ => false
  | .float x => Number.isNaN x

theorem Amount.isNaN_eq_false_iff : m.isNaN = false ↔ ∃ a, m.extended? = some a := by
  cases m with
  | int k => simp [isNaN, extended?]
  | float x => exact Number.isNaN_eq_false_iff

theorem Amount.le_iff : m ≤ n ↔
    ∃ a b, m.extended? = some a ∧ n.extended? = some b ∧ a.order b ≠ .gt := by
  constructor
  · rintro ⟨o, hcompare, horder⟩
    obtain ⟨a, b, ha, hb, rfl⟩ := compare?_eq_some_iff.mp hcompare
    exact ⟨a, b, ha, hb, horder⟩
  · rintro ⟨a, b, ha, hb, horder⟩
    exact ⟨_, compare?_eq_some_iff.mpr ⟨a, b, ha, hb, rfl⟩, horder⟩

theorem Amount.lt_iff : m < n ↔
    ∃ a b, m.extended? = some a ∧ n.extended? = some b ∧ a.order b = .lt :=
  compare?_eq_some_iff

/-- Two doubles are ordered as numbers as they are by themselves. -/
theorem Amount.float_le_float_iff : Amount.float x ≤ .float y ↔ x ≤ y := float_le_iff.symm

theorem Amount.float_lt_float_iff : Amount.float x < .float y ↔ x < y := by
  change (Amount.float x).compare? (.float y) = some .lt ↔
    decide (x.toModel < y.toModel) = true
  rw [decide_eq_true_iff, compare?_float]
  change _ ↔ (x.toModel.compare y.toModel == some .lt) = true
  exact beq_iff_eq.symm

theorem Extended.order_ne_gt_iff {a b : Extended} : a.order b ≠ .gt ↔ b.order a ≠ .lt := by
  rw [← order_swap a b]
  cases a.order b <;> decide

theorem Amount.le_of_lt (hlt : m < n) : m ≤ n := by
  refine ⟨.lt, hlt, ?_⟩
  decide

theorem Amount.lt_of_lt_of_le (hlt : l < m) (hle : m ≤ n) : l < n := by
  obtain ⟨a, b, ha, hb, hbelow⟩ := lt_iff.mp hlt
  obtain ⟨b', c, hb', hc, hbound⟩ := le_iff.mp hle
  obtain rfl := Option.some.inj (hb.symm.trans hb')
  refine lt_iff.mpr ⟨a, c, ha, hc, ?_⟩
  by_contra hreaches
  exact Extended.order_ne_lt_of_le hbound hreaches hbelow

theorem Amount.le_trans (hlm : l ≤ m) (hmn : m ≤ n) : l ≤ n := by
  obtain ⟨a, b, ha, hb, hbound⟩ := le_iff.mp hlm
  obtain ⟨b', c, hb', hc, hreaches⟩ := le_iff.mp hmn
  obtain rfl := Option.some.inj (hb.symm.trans hb')
  refine le_iff.mpr ⟨a, c, ha, hc, Extended.order_ne_gt_iff.mpr ?_⟩
  exact Extended.order_ne_lt_of_le hbound (Extended.order_ne_gt_iff.mp hreaches)

/-- Of two numbers the first one is less, or the second one is at most the first. -/
theorem Amount.lt_or_le (hm : m.isNaN = false) (hn : n.isNaN = false) : m < n ∨ n ≤ m := by
  obtain ⟨a, ha⟩ := isNaN_eq_false_iff.mp hm
  obtain ⟨b, hb⟩ := isNaN_eq_false_iff.mp hn
  by_cases hbelow : a.order b = .lt
  · exact Or.inl (lt_iff.mpr ⟨a, b, ha, hb, hbelow⟩)
  · exact Or.inr (le_iff.mpr ⟨b, a, hb, ha, Extended.order_ne_gt_iff.mpr hbelow⟩)

theorem Amount.not_lt_of_le (hle : n ≤ m) : ¬ m < n := by
  intro hlt
  obtain ⟨a, b, ha, hb, hbelow⟩ := lt_iff.mp (lt_of_lt_of_le hlt hle)
  obtain rfl := Option.some.inj (ha.symm.trans hb)
  have hswap := a.order_swap a
  rw [hbelow] at hswap
  exact absurd hswap (by decide)

theorem float_le_of_lt (hless : x < y) : x ≤ y :=
  Amount.float_le_float_iff.mp (Amount.le_of_lt (Amount.float_lt_float_iff.mpr hless))

theorem float_not_lt_of_le (hle : x ≤ y) : ¬ y < x := fun hless =>
  Amount.not_lt_of_le (Amount.float_le_float_iff.mpr hle) (Amount.float_lt_float_iff.mpr hless)

/-- What is not less than a number is at least this number, or it is none. -/
theorem Amount.not_lt_iff (hn : n.isNaN = false) : ¬ m < n ↔ n ≤ m ∨ m.isNaN = true := by
  constructor
  · intro hreaches
    cases hm : m.isNaN with
    | false => exact Or.inl ((lt_or_le hm hn).resolve_left hreaches)
    | true => exact Or.inr rfl
  · rintro (hle | hm) hlt
    · exact not_lt_of_le hle hlt
    · obtain ⟨a, -, ha, -, -⟩ := lt_iff.mp hlt
      rw [isNaN_eq_false_iff.mpr ⟨a, ha⟩] at hm
      contradiction

/-- At least the greater one of two numbers is what is at least both. -/
theorem Amount.max_le_iff (hm : m.isNaN = false) (hn : n.isNaN = false) :
    max m n ≤ l ↔ m ≤ l ∧ n ≤ l := by
  change (if m < n then n else m) ≤ l ↔ _
  split
  · rename_i hless
    exact ⟨fun hle => ⟨le_trans (le_of_lt hless) hle, hle⟩, And.right⟩
  · rename_i hless
    have hbelow := (lt_or_le hm hn).resolve_left hless
    exact ⟨fun hle => ⟨hle, le_trans hbelow hle⟩, And.left⟩

/-- Below the greater one of two numbers is what is below one of them. -/
theorem Amount.lt_max_iff (hm : m.isNaN = false) (hn : n.isNaN = false) :
    l < max m n ↔ l < m ∨ l < n := by
  change l < (if m < n then n else m) ↔ _
  split
  · rename_i hless
    exact ⟨Or.inr, fun hlt => hlt.elim (lt_of_lt_of_le · (le_of_lt hless)) id⟩
  · rename_i hless
    have hbelow := (lt_or_le hm hn).resolve_left hless
    exact ⟨Or.inl, fun hlt => hlt.elim id (lt_of_lt_of_le · hbelow)⟩

end PhotoCatalog.Number
