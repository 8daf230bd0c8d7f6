import PhotoCatalog.Proofs.Catalog.Holds
import PhotoCatalog.Proofs.Number.Amount
import PhotoCatalog.Query.Statement

/-!
What a range of numbers accepts.  The catalog compares a column of numbers with what the bounds are
as numbers, but the bounds are put in order before that, by what they are as values: numbers by
their size, texts character by character, and a number and a text not at all.
-/

namespace PhotoCatalog.Number

variable {m n a : Amount}

/-- The lesser one of two numbers, and the first one when neither is less. -/
instance : Min Amount := ⟨fun m n => if n < m then n else m⟩

theorem Amount.le_of_not_lt (hm : m.isNaN = false) (hn : n.isNaN = false) (hnot : ¬n < m) :
    m ≤ n :=
  (lt_or_le hn hm).resolve_left hnot

theorem Amount.min_le_iff (hm : m.isNaN = false) (hn : n.isNaN = false) :
    min m n ≤ a ↔ m ≤ a ∨ n ≤ a := by
  change (if n < m then n else m) ≤ a ↔ _
  split
  · rename_i hless
    exact ⟨Or.inr, fun hle => hle.elim (le_trans (le_of_lt hless)) id⟩
  · rename_i hless
    exact ⟨Or.inl, fun hle => hle.elim id (le_trans (le_of_not_lt hm hn hless))⟩

theorem Amount.le_max_iff (hm : m.isNaN = false) (hn : n.isNaN = false) :
    a ≤ max m n ↔ a ≤ m ∨ a ≤ n := by
  change a ≤ (if m < n then n else m) ↔ _
  split
  · rename_i hless
    exact ⟨Or.inr, fun hle => hle.elim (le_trans · (le_of_lt hless)) id⟩
  · rename_i hless
    exact ⟨Or.inl, fun hle => hle.elim id (le_trans · (le_of_not_lt hn hm hless))⟩

/-- Between the lesser and the greater one of two numbers, in terms of their order. -/
theorem Amount.between_iff (hm : m.isNaN = false) (hn : n.isNaN = false) :
    min m n ≤ a ∧ a ≤ max m n ↔ if n < m then n ≤ a ∧ a ≤ m else m ≤ a ∧ a ≤ n := by
  rw [min_le_iff hm hn, le_max_iff hm hn]
  split
  · rename_i hless
    have hle := le_of_lt hless
    exact ⟨fun ⟨hlow, hhigh⟩ => ⟨hlow.elim (le_trans hle) id, hhigh.elim id (le_trans · hle)⟩,
      fun ⟨hlow, hhigh⟩ => ⟨Or.inr hlow, Or.inl hhigh⟩⟩
  · rename_i hless
    have hle := le_of_not_lt hm hn hless
    exact ⟨fun ⟨hlow, hhigh⟩ => ⟨hlow.elim id (le_trans hle), hhigh.elim (le_trans · hle) id⟩,
      fun ⟨hlow, hhigh⟩ => ⟨Or.inl hlow, Or.inr hhigh⟩⟩

end PhotoCatalog.Number

namespace PhotoCatalog.Query

open PhotoCatalog.Catalog PhotoCatalog.Number

/-- The number that a bound is to a column of numbers: itself, or the one that its text spells. -/
def boundAmount? : Value → Option Amount
  | .text s => (numberOfText? s).bind Cell.amount?
  | value => value.amount?

/-- The column of a row holds a number between two others, both included. -/
def LiesBetween (s : Subject) (column : String) (low high : Amount) : Prop :=
  ∃ a, (s.cell column).amount? = some a ∧ low ≤ a ∧ a ≤ high

/-- A row whose column prefers numbers and holds none that is undefined. -/
structure PrefersNumbers (s : Subject) (column : String) : Prop where
  affinity : s.affinity column ≠ .text
  isNumber : ∀ x, s.cell column = .real x → isNaN x = false

section Cells

variable {s : Subject} {column : String} {low high : Cell} {m n : Amount}

theorem amount?_eq_some_iff {c : Cell} :
    c.amount? = some m ↔
      (∃ k, c = .int k ∧ m = .int k) ∨ ∃ x, c = .real x ∧ m = .float x := by
  cases c <;> simp [Cell.amount?, eq_comm]

theorem order_of_amounts {c d : Cell} (hc : c.amount? = some m) (hd : d.amount? = some n) :
    c.order d = (m.compare? n).getD .eq := by
  rcases amount?_eq_some_iff.mp hc with ⟨k, rfl, rfl⟩ | ⟨x, rfl, rfl⟩ <;>
    rcases amount?_eq_some_iff.mp hd with ⟨l, rfl, rfl⟩ | ⟨y, rfl, rfl⟩ <;> rfl

/-- Texts and bytes come behind all numbers. -/
theorem order_of_no_amount {c d : Cell} (hnone : c.amount? = none) (hset : c.isNull = false)
    (hd : d.amount? = some n) : c.order d = .gt := by
  cases c with
  | null => cases hset
  | int k => cases hnone
  | real x => cases hnone
  | text t => rcases amount?_eq_some_iff.mp hd with ⟨l, rfl, -⟩ | ⟨y, rfl, -⟩ <;> rfl
  | blob data => rcases amount?_eq_some_iff.mp hd with ⟨l, rfl, -⟩ | ⟨y, rfl, -⟩ <;> rfl

theorem isNull_of_amount {c : Cell} (hc : c.amount? = some m) : c.isNull = false := by
  rcases amount?_eq_some_iff.mp hc with ⟨k, rfl, -⟩ | ⟨x, rfl, -⟩ <;> rfl

/-- The order of two cells that are numbers is that of the numbers. -/
theorem order_iff {c d : Cell} (hc : c.amount? = some m) (hd : d.amount? = some n)
    (hm : m.isNaN = false) (hn : n.isNaN = false) :
    (c.order d ≠ .lt ↔ n ≤ m) ∧ (c.order d ≠ .gt ↔ m ≤ n) := by
  obtain ⟨x, hx⟩ := Amount.isNaN_eq_false_iff.mp hm
  obtain ⟨y, hy⟩ := Amount.isNaN_eq_false_iff.mp hn
  have hcompare : m.compare? n = some (c.order d) := by
    rw [order_of_amounts hc hd, Amount.compare?_eq_some_iff.mpr ⟨x, y, hx, hy, rfl⟩]
    rfl
  constructor
  · have hless : m < n ↔ c.order d = .lt := by
      change m.compare? n = some .lt ↔ _
      rw [hcompare, Option.some.injEq]
    rw [ne_eq, ← hless, Amount.not_lt_iff hn, hm]
    simp
  · change _ ↔ ∃ o, m.compare? n = some o ∧ o ≠ .gt
    simp [hcompare]

/-- What is compared with a column of numbers as a number. -/
theorem compared_of_bound {value : Value} {affinity : Affinity}
    (hbound : boundAmount? value = some m) (hnumber : m.isNaN = false)
    (haffinity : affinity ≠ .text) {cell : Cell} (hcell : Cell.ofValue value = .ok cell) :
    (cell.compared affinity).amount? = some m := by
  have hcompared : cell.compared affinity = cell.spelledNumber := by
    cases affinity <;> first | rfl | exact absurd rfl haffinity
  rw [hcompared]
  cases value with
  | bool b =>
      cases hcell
      exact hbound
  | int k =>
      rw [Cell.ofValue] at hcell
      split at hcell <;> cases hcell
      exact hbound
  | float x =>
      cases hbound
      cases hcell
      have hx : isNaN x = false := hnumber
      rw [Cell.ofReal, hx]
      rfl
  | text s =>
      cases hcell
      obtain ⟨c, hspelled, hc⟩ := Option.bind_eq_some_iff.mp hbound
      rw [Cell.spelledNumber, hspelled]
      exact hc
  | null | bytes _ | date _ | moment _ | list _ | map _ => cases hbound

theorem PrefersNumbers.isNaN_eq_false {a : Amount} (hnumbers : PrefersNumbers s column)
    (hamount : (s.cell column).amount? = some a) : a.isNaN = false := by
  rcases amount?_eq_some_iff.mp hamount with ⟨k, -, rfl⟩ | ⟨x, hcell, rfl⟩
  · rfl
  · exact hnumbers.isNumber x hcell

/-- A range of two cells that are numbers accepts the numbers between them. -/
theorem inRange_numbers (hnumbers : PrefersNumbers s column)
    (hlow : (low.compared (s.affinity column)).amount? = some m)
    (hhigh : (high.compared (s.affinity column)).amount? = some n) (hm : m.isNaN = false)
    (hn : n.isNaN = false) :
    s.inRange column low (some high) false = some true ↔ LiesBetween s column m n := by
  have hbetween : s.inRange column low (some high) false =
      (s.isSet column).and ((s.atLeast column low).and (s.atMost column high)) := rfl
  rw [hbetween, Subject.isSet, Subject.atLeast, Subject.atMost, Subject.compare?,
    Subject.compare?, Cell.compare?, Cell.compare?, isNull_of_amount hlow, isNull_of_amount hhigh,
    Bool.or_false, LiesBetween]
  cases hset : (s.cell column).isNull with
  | true =>
      have hnone : (s.cell column).amount? = none := by
        by_contra hsome
        obtain ⟨a, ha⟩ := Option.ne_none_iff_exists'.mp hsome
        rw [isNull_of_amount ha] at hset
        cases hset
      simp [hnone, Truth.and]
  | false =>
      simp only [Bool.not_false, Bool.false_eq_true, if_false, Option.map_some, Truth.and_some,
        Bool.true_and, Option.some.injEq, Bool.and_eq_true, bne_iff_ne]
      cases hamount : (s.cell column).amount? with
      | none =>
          rw [order_of_no_amount hamount hset hhigh]
          simp
      | some a =>
          have ha := hnumbers.isNaN_eq_false hamount
          rw [(order_iff hamount hlow ha hm).1, (order_iff hamount hhigh ha hn).2]
          simp

end Cells

section Ranges

variable {s : Subject} {column : String} {first second : Value} {m n : Amount}

/-- A value that is no whole number beyond 64 bits. -/
def FitsCell (value : Value) : Prop := ∀ k, value = .int k → fits k = true

theorem exists_cell (hbound : boundAmount? first = some m) (hfits : FitsCell first) :
    ∃ cell, Cell.ofValue first = .ok cell := by
  cases first with
  | int k => exact ⟨.int k, by rw [Cell.ofValue, if_pos (hfits k rfl)]⟩
  | bool _ | float _ | text _ => exact ⟨_, rfl⟩
  | null | bytes _ | date _ | moment _ | list _ | map _ => cases hbound

theorem ofValue_of_not_fits (hnot : ¬FitsCell first) : Cell.ofValue first = .error .outOfRange := by
  simp only [FitsCell, not_forall] at hnot
  obtain ⟨k, rfl, hfits⟩ := hnot
  rw [Cell.ofValue, if_neg hfits]

/-- What the range between two bounds accepts, as it is written. -/
theorem holds_range_iff (hnumbers : PrefersNumbers s column) (hfirst : boundAmount? first = some m)
    (hsecond : boundAmount? second = some n) (hm : m.isNaN = false) (hn : n.isNaN = false)
    (hfits : FitsCell first) (hfits' : FitsCell second) :
    s.Answers (.range column first (some second) false) ∧
      (s.Holds (.range column first (some second) false) ↔ LiesBetween s column m n) := by
  obtain ⟨low, hlow⟩ := exists_cell hfirst hfits
  obtain ⟨high, hhigh⟩ := exists_cell hsecond hfits'
  have hchecked : s.satisfies (.range column first (some second) false) =
      .ok (s.inRange column low (some high) false) := by
    rw [Subject.satisfies, hlow, ok_bind]
    simp only [Option.mapM_some, hhigh]
    rfl
  refine ⟨⟨_, hchecked⟩, ?_⟩
  rw [Subject.Holds, hchecked, Except.ok.injEq]
  exact inRange_numbers hnumbers (compared_of_bound hfirst hm hnumbers.affinity hlow)
    (compared_of_bound hsecond hn hnumbers.affinity hhigh) hm hn

/-- A bound beyond 64 bits cannot be compared with. -/
theorem satisfies_range_of_not_fits (hfirst : boundAmount? first = some m)
    (hnot : ¬(FitsCell first ∧ FitsCell second)) :
    s.satisfies (.range column first (some second) false) = .error .outOfRange := by
  rw [Subject.satisfies]
  by_cases hfits : FitsCell first
  · obtain ⟨low, hlow⟩ := exists_cell hfirst hfits
    have hsecond : Cell.ofValue second = .error .outOfRange :=
      ofValue_of_not_fits fun hfits' => hnot ⟨hfits, hfits'⟩
    rw [hlow, ok_bind]
    simp only [Option.mapM_some, hsecond]
    rfl
  · rw [ofValue_of_not_fits hfits]
    rfl

theorem boundAmount?_of_number (hfirst : first.amount? = some m) :
    boundAmount? first = some m := by
  cases first <;> first | exact hfirst | cases hfirst

/-- Numbers are ordered by their size. -/
theorem less_of_numbers (hfirst : first.amount? = some m) (hsecond : second.amount? = some n) :
    second.less first = .ok (decide (n < m)) := by
  have hatoms : atomLess second first = .ok (decide (n < m)) := by
    simp only [atomLess, hfirst, hsecond, Except.ok.injEq]
    rw [Bool.eq_iff_iff, beq_iff_eq, decide_eq_true_iff]
    rfl
  rw [← hatoms]
  cases second with
  | list _ => cases hsecond
  | _ => rfl

theorem less_of_texts (s t : String) : (Value.text t).less (.text s) = .ok (decide (t < s)) := rfl

/-- A number and a text have no order. -/
theorem less_of_unlike (hfirst : first.amount? = some m) (t : String) :
    (Value.text t).less first = .error .wrongKind ∧
      first.less (.text t) = .error .wrongKind := by
  have hnone : (Value.text t).amount? = none := rfl
  have hatoms : atomLess (.text t) first = .error .wrongKind ∧
      atomLess first (.text t) = .error .wrongKind := by
    constructor <;> simp only [atomLess, hfirst, hnone]
  refine ⟨hatoms.1, ?_⟩
  rw [← hatoms.2]
  cases first with
  | list _ => cases hfirst
  | _ => rfl

/-- The condition of two bounds that have an order. -/
theorem numericRange_of_less {swapped : Bool} (hless : second.less first = .ok swapped) :
    numericRange column (.two first second) =
      .ok (if swapped then .range column second (some first) false
        else .range column first (some second) false) := by
  rw [numericRange, hless]
  cases swapped <;> rfl

/-- Two numbers, whatever their order. -/
theorem numericRange_numbers (hnumbers : PrefersNumbers s column)
    (hfirst : first.amount? = some m) (hsecond : second.amount? = some n)
    (hm : m.isNaN = false) (hn : n.isNaN = false) :
    ∃ condition, numericRange column (.two first second) = .ok condition ∧
      (FitsCell first ∧ FitsCell second → s.Answers condition ∧
        (s.Holds condition ↔ LiesBetween s column (min m n) (max m n))) ∧
      (¬(FitsCell first ∧ FitsCell second) → s.satisfies condition = .error .outOfRange) := by
  have hboundFirst := boundAmount?_of_number hfirst
  have hboundSecond := boundAmount?_of_number hsecond
  refine ⟨_, numericRange_of_less (less_of_numbers hfirst hsecond), fun ⟨hfits, hfits'⟩ => ?_,
    fun hnot => ?_⟩
  · simp only [LiesBetween, Amount.between_iff hm hn]
    by_cases hless : n < m
    · simp only [hless, decide_true, if_true]
      exact holds_range_iff hnumbers hboundSecond hboundFirst hn hm hfits' hfits
    · simp only [hless, decide_false, if_false, Bool.false_eq_true]
      exact holds_range_iff hnumbers hboundFirst hboundSecond hm hn hfits hfits'
  · by_cases hless : n < m
    · simp only [hless, decide_true, if_true]
      exact satisfies_range_of_not_fits hboundSecond fun hboth => hnot hboth.symm
    · simp only [hless, decide_false, if_false, Bool.false_eq_true]
      exact satisfies_range_of_not_fits hboundFirst hnot

/-- Two texts that spell numbers: the lesser one as a text gives the lower end. -/
theorem numericRange_texts (hnumbers : PrefersNumbers s column) {t u : String}
    (hfirst : boundAmount? (.text t) = some m) (hsecond : boundAmount? (.text u) = some n)
    (hm : m.isNaN = false) (hn : n.isNaN = false) :
    ∃ condition, numericRange column (.two (.text t) (.text u)) = .ok condition ∧
      s.Answers condition ∧ (s.Holds condition ↔
        if u < t then LiesBetween s column n m else LiesBetween s column m n) := by
  have hfits : ∀ t, FitsCell (.text t) := by
    rintro t k ⟨⟩
  refine ⟨_, numericRange_of_less (less_of_texts t u), ?_⟩
  by_cases hless : u < t
  · simp only [hless, decide_true, if_true]
    exact holds_range_iff hnumbers hsecond hfirst hn hm (hfits u) (hfits t)
  · simp only [hless, decide_false, if_false, Bool.false_eq_true]
    exact holds_range_iff hnumbers hfirst hsecond hm hn (hfits t) (hfits u)

end Ranges

/-- The columns of the range facets other than that of dates prefer numbers. -/
theorem imageAffinity_of_numeric {facet : RangeFacet} (hfacet : facet ≠ .dateTaken) :
    imageAffinity facet.column ≠ .text := by
  cases facet <;> first | exact absurd rfl hfacet | decide

theorem prefersNumbers_subject {catalog : Catalog} {row : ImageRow} {facet : RangeFacet}
    (hfacet : facet ≠ .dateTaken)
    (hrow : ∀ x, row.cell facet.column = .real x → isNaN x = false) :
    PrefersNumbers (catalog.subject row) facet.column where
  affinity := imageAffinity_of_numeric hfacet
  isNumber := hrow

theorem rangeCondition_numeric {facet : RangeFacet} (hfacet : facet ≠ .dateTaken)
    (bounds : Bounds) : rangeCondition facet bounds = numericRange facet.column bounds := by
  rw [rangeCondition, if_neg hfacet]

/-- Which images a range of numbers accepts, in whose column nothing is undefined.  Between two
numbers it accepts the numbers from the lesser to the greater one, in whatever order they are given,
unless one of them is beyond 64 bits.  Of two texts that spell numbers the one that comes first as a
text gives the lower end, and the other one the upper end.  A number and a text are no range. -/
theorem numericRange_accepts {catalog : Catalog} {row : ImageRow} {facet : RangeFacet}
    (hfacet : facet ≠ .dateTaken)
    (hrow : ∀ x, row.cell facet.column = .real x → isNaN x = false) :
    (∀ first second m n, first.amount? = some m → second.amount? = some n →
      m.isNaN = false → n.isNaN = false →
      ∃ condition swapped, rangeCondition facet (.two first second) = .ok condition ∧
        rangeCondition facet (.two second first) = .ok swapped ∧
        (FitsCell first ∧ FitsCell second → (catalog.subject row).Answers condition ∧
          (catalog.subject row).Answers swapped ∧
          ((catalog.subject row).Holds condition ↔
            LiesBetween (catalog.subject row) facet.column (min m n) (max m n)) ∧
          ((catalog.subject row).Holds swapped ↔ (catalog.subject row).Holds condition)) ∧
        (¬(FitsCell first ∧ FitsCell second) →
          (catalog.subject row).satisfies condition = .error .outOfRange ∧
          (catalog.subject row).satisfies swapped = .error .outOfRange)) ∧
    (∀ t u m n, boundAmount? (.text t) = some m → boundAmount? (.text u) = some n →
      m.isNaN = false → n.isNaN = false →
      ∃ condition swapped, rangeCondition facet (.two (.text t) (.text u)) = .ok condition ∧
        rangeCondition facet (.two (.text u) (.text t)) = .ok swapped ∧
        (catalog.subject row).Answers condition ∧ (catalog.subject row).Answers swapped ∧
        ((catalog.subject row).Holds condition ↔
          if u < t then LiesBetween (catalog.subject row) facet.column n m
          else LiesBetween (catalog.subject row) facet.column m n) ∧
        ((catalog.subject row).Holds swapped ↔ (catalog.subject row).Holds condition)) ∧
    ∀ first m t, first.amount? = some m →
      rangeCondition facet (.two first (.text t)) = .error .wrongKind ∧
      rangeCondition facet (.two (.text t) first) = .error .wrongKind := by
  have hnumbers : PrefersNumbers (catalog.subject row) facet.column :=
    prefersNumbers_subject hfacet hrow
  simp only [rangeCondition_numeric hfacet]
  refine ⟨fun first second m n hfirst hsecond hm hn => ?_, fun t u m n ht hu hm hn => ?_,
    fun first m t hfirst => ?_⟩
  · obtain ⟨condition, hcondition, hholds, hfails⟩ :=
      numericRange_numbers hnumbers hfirst hsecond hm hn
    obtain ⟨swapped, hswapped, hholds', hfails'⟩ :=
      numericRange_numbers hnumbers hsecond hfirst hn hm
    refine ⟨condition, swapped, hcondition, hswapped, fun hfits => ?_, fun hnot => ?_⟩
    · obtain ⟨hanswers, hiff⟩ := hholds hfits
      obtain ⟨hanswers', hiff'⟩ := hholds' hfits.symm
      refine ⟨hanswers, hanswers', hiff, ?_⟩
      rw [hiff, hiff', LiesBetween, LiesBetween]
      simp only [Amount.min_le_iff hm hn, Amount.min_le_iff hn hm, Amount.le_max_iff hm hn,
        Amount.le_max_iff hn hm, or_comm]
    · exact ⟨hfails hnot, hfails' fun hboth => hnot hboth.symm⟩
  · obtain ⟨condition, hcondition, hanswers, hiff⟩ := numericRange_texts hnumbers ht hu hm hn
    obtain ⟨swapped, hswapped, hanswers', hiff'⟩ := numericRange_texts hnumbers hu ht hn hm
    refine ⟨condition, swapped, hcondition, hswapped, hanswers, hanswers', hiff, ?_⟩
    rw [hiff, hiff']
    rcases lt_trichotomy t u with hless | rfl | hless
    · rw [if_pos hless, if_neg (not_lt_of_gt hless)]
    · obtain rfl := Option.some.inj (ht.symm.trans hu)
      rfl
    · rw [if_neg (not_lt_of_gt hless), if_pos hless]
  · obtain ⟨hless, hless'⟩ := less_of_unlike hfirst t
    exact ⟨by rw [numericRange, hless]; rfl, by rw [numericRange, hless']; rfl⟩

/-- An image taken with a sensitivity of ten. -/
def sensitiveImage : ImageRow := ⟨1, .text "a.jpg", [("iso", .int 10)]⟩

theorem numericRange_accepts_reversed :
    ∃ condition, rangeCondition .iso (.two (.int 40) (.int 9)) = .ok condition ∧
      (Catalog.empty.subject sensitiveImage).Holds condition := by
  have hrow : ∀ x, sensitiveImage.cell RangeFacet.iso.column = .real x → isNaN x = false := by
    rintro x ⟨⟩
  obtain ⟨condition, _, hcondition, -, hholds, -⟩ :=
    (@numericRange_accepts .empty sensitiveImage .iso (by decide) hrow).1 (.int 40) (.int 9)
      (.int 40) (.int 9) rfl rfl rfl rfl
  have hfits : FitsCell (.int 40) ∧ FitsCell (.int 9) := by
    constructor <;> rintro k ⟨⟩ <;> decide
  refine ⟨condition, hcondition, (hholds hfits).2.2.1.mpr ?_⟩
  exact ⟨.int 10, rfl, by decide +kernel, by decide +kernel⟩

/-- The texts of nine and ten are no range around ten, for the text of ten comes first. -/
theorem numericRange_misorders_texts :
    ¬∀ (catalog : Catalog) (row : ImageRow) (facet : RangeFacet) (first second : Value)
      (m n : Amount), facet ≠ .dateTaken →
      (∀ x, row.cell facet.column = .real x → isNaN x = false) →
      boundAmount? first = some m → boundAmount? second = some n →
      m.isNaN = false → n.isNaN = false →
      ∃ condition, rangeCondition facet (.two first second) = .ok condition ∧
        ((catalog.subject row).Holds condition ↔
          LiesBetween (catalog.subject row) facet.column (min m n) (max m n)) := by
  intro hall
  have hrow : ∀ x, sensitiveImage.cell RangeFacet.iso.column = .real x → isNaN x = false := by
    rintro x ⟨⟩
  have hnine : boundAmount? (.text "9") = some (.int 9) := rfl
  have hten : boundAmount? (.text "10") = some (.int 10) := rfl
  obtain ⟨condition, hcondition, hclaim⟩ := hall .empty sensitiveImage .iso (.text "9")
    (.text "10") (.int 9) (.int 10) (by decide) hrow hnine hten rfl rfl
  have hnumbers : PrefersNumbers (Catalog.empty.subject sensitiveImage) RangeFacet.iso.column :=
    prefersNumbers_subject (by decide) hrow
  obtain ⟨found, hfound, -, hholds⟩ := numericRange_texts hnumbers hnine hten rfl rfl
  rw [rangeCondition_numeric (by decide)] at hcondition
  obtain rfl := Except.ok.inj (hcondition.symm.trans hfound)
  rw [hclaim, if_pos (by decide)] at hholds
  have hinside : LiesBetween (Catalog.empty.subject sensitiveImage) RangeFacet.iso.column
      (min (.int 9) (.int 10)) (max (.int 9) (.int 10)) :=
    ⟨.int 10, rfl, by decide +kernel, by decide +kernel⟩
  obtain ⟨a, ha, -, hupper⟩ := hholds.mp hinside
  obtain rfl := Option.some.inj ((show _ = some (Amount.int 10) from rfl).symm.trans ha)
  revert hupper
  decide +kernel

end PhotoCatalog.Query
