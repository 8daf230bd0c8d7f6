import Mathlib.Data.Nat.Basic
import Mathlib.Order.Lattice.Nat
import PhotoCatalog.Calendar.Date

/-!
The days of the calendar in order.  They are numbered in the order of year, month and day, the next
day has the next number, at the end of a month and of a year as well, and every number within the
calendar is that of a day.
-/

namespace PhotoCatalog.Calendar

variable {a b d : Date} {year month other : Nat}

theorem daysInMonth_bounds (year month : Nat) :
    1 ≤ daysInMonth year month ∧ daysInMonth year month ≤ 31 := by
  rw [daysInMonth]
  split
  · split <;> omega
  · split <;> omega

/-- The number of days of a year. -/
def daysInYear (year : Nat) : Nat := if isLeap year then 366 else 365

theorem isLeap_eq_true_iff :
    isLeap year = true ↔ year % 4 = 0 ∧ (year % 100 ≠ 0 ∨ year % 400 = 0) := by
  simp [isLeap]

theorem daysBeforeYear_succ (hyear : 1 ≤ year) :
    daysBeforeYear (year + 1) = daysBeforeYear year + daysInYear year := by
  obtain ⟨y, rfl⟩ := Nat.exists_eq_succ_of_ne_zero (Nat.one_le_iff_ne_zero.mp hyear)
  rw [daysBeforeYear, daysBeforeYear, daysInYear, Nat.succ_eq_add_one, Nat.add_sub_cancel,
    Nat.add_sub_cancel, Nat.succ_div, Nat.succ_div, Nat.succ_div]
  have hcenturies : y / 100 ≤ y / 4 := Nat.div_le_div_left (by decide) (by decide)
  have hleap := @isLeap_eq_true_iff (y + 1)
  simp only [← Nat.dvd_iff_mod_eq_zero, ne_eq] at hleap
  by_cases hfour : 4 ∣ y + 1
  · by_cases hcentury : 100 ∣ y + 1
    · by_cases hfourth : 400 ∣ y + 1
      · rw [if_pos hfour, if_pos hcentury, if_pos hfourth,
          if_pos (hleap.mpr ⟨hfour, Or.inr hfourth⟩)]
        omega
      · rw [if_pos hfour, if_pos hcentury, if_neg hfourth,
          if_neg fun h => (hleap.mp h).2.elim (· hcentury) hfourth]
        omega
    · have hfourth : ¬ 400 ∣ y + 1 := fun h => hcentury ((by decide : 100 ∣ 400).trans h)
      rw [if_pos hfour, if_neg hcentury, if_neg hfourth,
        if_pos (hleap.mpr ⟨hfour, Or.inl hcentury⟩)]
      omega
  · have hcentury : ¬ 100 ∣ y + 1 := fun h => hfour ((by decide : 4 ∣ 100).trans h)
    have hfourth : ¬ 400 ∣ y + 1 := fun h => hfour ((by decide : 4 ∣ 400).trans h)
    rw [if_neg hfour, if_neg hcentury, if_neg hfourth, if_neg fun h => hfour (hleap.mp h).1]
    omega

theorem daysBeforeMonth_succ (year : Nat) (hmonth : 1 ≤ month) :
    daysBeforeMonth year (month + 1) = daysBeforeMonth year month + daysInMonth year month := by
  obtain ⟨m, rfl⟩ := Nat.exists_eq_succ_of_ne_zero (Nat.one_le_iff_ne_zero.mp hmonth)
  rw [daysBeforeMonth, daysBeforeMonth, Nat.succ_eq_add_one, Nat.add_sub_cancel, Nat.add_sub_cancel,
    List.range_succ, List.foldl_append]
  rfl

theorem daysBeforeMonth_thirteen (year : Nat) : daysBeforeMonth year 13 = daysInYear year := by
  have hrange : List.range (13 - 1) = [0, 1, 2, 3, 4, 5, 6, 7, 8, 9, 10, 11] := by decide
  rw [daysBeforeMonth, hrange, daysInYear]
  cases h : isLeap year <;> simp [daysInMonth, h]

/-- A year is over before a later one begins. -/
theorem daysBeforeYear_le (hyear : 1 ≤ year) (hless : year < other) :
    daysBeforeYear year + daysInYear year ≤ daysBeforeYear other := by
  induction other, hless using Nat.le_induction with
  | base => rw [daysBeforeYear_succ hyear]
  | succ other hle ih =>
      rw [daysBeforeYear_succ (by omega)]
      omega

/-- A month is over before a later one begins. -/
theorem daysBeforeMonth_le (year : Nat) (hmonth : 1 ≤ month) (hless : month < other) :
    daysBeforeMonth year month + daysInMonth year month ≤ daysBeforeMonth year other := by
  induction other, hless using Nat.le_induction with
  | base => rw [daysBeforeMonth_succ year hmonth]
  | succ other hle ih =>
      rw [daysBeforeMonth_succ year (by omega)]
      omega

/-- The order of days by year, month and number. -/
def Date.Precedes (a b : Date) : Prop :=
  a.year < b.year ∨ a.year = b.year ∧ (a.month < b.month ∨ a.month = b.month ∧ a.day < b.day)

theorem Date.Valid.day_of_year_le (hd : d.Valid) :
    daysBeforeMonth d.year d.month + d.day ≤ daysInYear d.year := by
  obtain ⟨-, -, hmonth, hmonths, -, hdays⟩ := hd
  have hover := daysBeforeMonth_le d.year hmonth (show d.month < 13 by omega)
  rw [daysBeforeMonth_thirteen] at hover
  omega

theorem Date.Precedes.ordinal_lt (ha : a.Valid) (hb : b.Valid) (hless : a.Precedes b) :
    a.ordinal < b.ordinal := by
  have hinYear := ha.day_of_year_le
  obtain ⟨hyear, -, hmonth, -, -, hday⟩ := ha
  obtain ⟨-, -, -, -, hday', -⟩ := hb
  rw [ordinal, ordinal]
  rcases hless with hless | ⟨hsame, hless | ⟨hsameMonth, hless⟩⟩
  · have hover := daysBeforeYear_le hyear hless
    omega
  · have hover := daysBeforeMonth_le a.year hmonth hless
    rw [← hsame]
    omega
  · rw [← hsame, ← hsameMonth]
    omega

theorem Date.precedes_trichotomy (a b : Date) : a.Precedes b ∨ a = b ∨ b.Precedes a := by
  obtain ⟨y, m, d⟩ := a
  obtain ⟨y', m', d'⟩ := b
  simp only [Precedes, mk.injEq]
  omega

/-- Days are numbered in the order of year, month and number. -/
theorem Date.ordinal_lt_iff (ha : a.Valid) (hb : b.Valid) :
    a.ordinal < b.ordinal ↔ a.Precedes b := by
  constructor
  · intro hless
    rcases precedes_trichotomy a b with h | rfl | h
    · exact h
    · exact absurd hless (Nat.lt_irrefl _)
    · exact absurd hless (h.ordinal_lt hb ha).not_gt
  · exact Precedes.ordinal_lt ha hb

theorem Date.ordinal_injective (ha : a.Valid) (hb : b.Valid) (heq : a.ordinal = b.ordinal) :
    a = b := by
  rcases precedes_trichotomy a b with h | h | h
  · exact absurd heq (h.ordinal_lt ha hb).ne
  · exact h
  · exact absurd heq.symm (h.ordinal_lt hb ha).ne

/-- The last day of the calendar. -/
def lastDay : Date := ⟨lastYear, 12, 31⟩

theorem Date.ordinal_mk (year month day : Nat) :
    (Date.mk year month day).ordinal = daysBeforeYear year + daysBeforeMonth year month + day := rfl

theorem Date.next?_mk (year month day : Nat) : (Date.mk year month day).next? =
    if day < daysInMonth year month then some ⟨year, month, day + 1⟩
    else if month < 12 then some ⟨year, month + 1, 1⟩
    else if year < lastYear then some ⟨year + 1, 1, 1⟩
    else none := rfl

/-- Every day but the last one has a next day, with the next number. -/
theorem Date.Valid.next (hd : d.Valid) (hlast : d ≠ lastDay) :
    ∃ next, d.next? = some next ∧ next.Valid ∧ next.ordinal = d.ordinal + 1 := by
  obtain ⟨y, m, n⟩ := d
  obtain ⟨hyear, hyears, hmonth, hmonths, hday, hdays⟩ :
    1 ≤ y ∧ y ≤ lastYear ∧ 1 ≤ m ∧ m ≤ 12 ∧ 1 ≤ n ∧ n ≤ daysInMonth y m := hd
  rw [next?_mk]
  by_cases hless : n < daysInMonth y m
  · rw [if_pos hless]
    exact ⟨_, rfl, ⟨hyear, hyears, hmonth, hmonths, Nat.le_add_left 1 n, hless⟩, rfl⟩
  rw [if_neg hless]
  obtain rfl : n = daysInMonth y m := by omega
  by_cases hmonthLess : m < 12
  · rw [if_pos hmonthLess]
    refine ⟨_, rfl, ⟨hyear, hyears, Nat.le_add_left 1 m, hmonthLess, le_rfl,
      (daysInMonth_bounds y (m + 1)).1⟩, ?_⟩
    rw [ordinal_mk, ordinal_mk, daysBeforeMonth_succ y hmonth]
    omega
  rw [if_neg hmonthLess]
  obtain rfl : m = 12 := by omega
  by_cases hyearLess : y < lastYear
  · rw [if_pos hyearLess]
    refine ⟨_, rfl, ⟨Nat.le_add_left 1 y, hyearLess, le_rfl, Nat.le_add_left 1 11, le_rfl,
      (daysInMonth_bounds (y + 1) 1).1⟩, ?_⟩
    have hend := daysBeforeMonth_thirteen y
    rw [daysBeforeMonth_succ y (by decide : 1 ≤ 12)] at hend
    have hfirst : daysBeforeMonth (y + 1) 1 = 0 := rfl
    rw [ordinal_mk, ordinal_mk, daysBeforeYear_succ hyear, hfirst]
    omega
  · obtain rfl : y = lastYear := by omega
    exact absurd rfl hlast

/-- The day that lies a number of days behind the first of a month of the same year. -/
theorem dayWithin_spec {n months : Nat} (hyear : 1 ≤ year) (hyears : year ≤ lastYear)
    (hmonth : 1 ≤ month) (hmonths : month + months = 12)
    (hinYear : daysBeforeMonth year month + n < daysInYear year) :
    (dayWithin year month n months).Valid ∧
      (dayWithin year month n months).ordinal =
        daysBeforeYear year + daysBeforeMonth year month + n + 1 := by
  induction months generalizing month n with
  | zero =>
      obtain rfl : month = 12 := hmonths
      have hend := daysBeforeMonth_thirteen year
      rw [daysBeforeMonth_succ year (by decide : 1 ≤ 12)] at hend
      have hlast : n + 1 ≤ daysInMonth year 12 := by omega
      exact ⟨⟨hyear, hyears, hmonth, le_rfl, Nat.le_add_left 1 n, hlast⟩, rfl⟩
  | succ months ih =>
      rw [dayWithin]
      by_cases hless : n < daysInMonth year month
      · rw [if_pos hless]
        have hmonthLess : month ≤ 12 := by omega
        exact ⟨⟨hyear, hyears, hmonth, hmonthLess, Nat.le_add_left 1 n, hless⟩, rfl⟩
      · rw [if_neg hless]
        have hnext := daysBeforeMonth_succ year hmonth
        have hrest : month + 1 + months = 12 := by omega
        have hbehind : daysBeforeMonth year (month + 1) + (n - daysInMonth year month) <
            daysInYear year := by omega
        obtain ⟨hvalid, hordinal⟩ := ih (Nat.le_add_left 1 month) hrest hbehind
        exact ⟨hvalid, by omega⟩

/-- The search for a year goes back to the one that holds the day. -/
theorem yearHolding_spec {n guess steps : Nat} (hpos : 1 ≤ n)
    (hhigh : n ≤ daysBeforeYear (guess + 1)) (hlow : daysBeforeYear (guess - steps) < n) :
    daysBeforeYear (yearHolding n guess steps) < n ∧
      n ≤ daysBeforeYear (yearHolding n guess steps + 1) := by
  induction steps generalizing guess with
  | zero => exact ⟨hlow, hhigh⟩
  | succ steps ih =>
      rw [yearHolding]
      by_cases hholds : daysBeforeYear guess < n
      · rw [if_pos hholds]
        exact ⟨hholds, hhigh⟩
      · rw [if_neg hholds]
        have hguess : 1 ≤ guess := by
          rcases Nat.eq_zero_or_pos guess with rfl | hguess
          · exact absurd (show daysBeforeYear 0 < n from hpos) hholds
          · exact hguess
        apply ih
        · rw [Nat.sub_add_cancel hguess]
          exact not_lt.mp hholds
        · rw [Nat.sub_sub, Nat.add_comm 1 steps]
          exact hlow

theorem le_yearHolding (n guess steps : Nat) : guess ≤ yearHolding n guess steps + steps := by
  induction steps generalizing guess with
  | zero => exact le_rfl
  | succ steps ih =>
      rw [yearHolding]
      split
      · omega
      · have := ih (guess - 1)
        omega

/-- Whatever day is found for a number is in the calendar and has this number. -/
theorem Date.ofOrdinal?_spec {n : Nat} (hfound : Date.ofOrdinal? n = some d) :
    d.Valid ∧ d.ordinal = n := by
  rw [ofOrdinal?] at hfound
  split at hfound
  · cases hfound
  rename_i hpos
  dsimp only at hfound
  split at hfound
  · cases hfound
  rename_i hyears
  have hback := le_yearHolding n (n / 365 + 1) 40
  obtain ⟨hlow, hhigh⟩ := @yearHolding_spec n (n / 365 + 1) 40 (by omega)
    (by rw [daysBeforeYear]; omega) (by rw [daysBeforeYear]; simp only [lastYear] at hyears; omega)
  generalize yearHolding n (n / 365 + 1) 40 = year at hfound hyears hback hlow hhigh
  have hyear : 1 ≤ year := by
    rcases Nat.eq_zero_or_pos year with rfl | hyear
    · exact absurd (show n ≤ 0 from hhigh) (by omega)
    · exact hyear
  rw [daysBeforeYear_succ hyear] at hhigh
  have hfirst : daysBeforeMonth year 1 = 0 := rfl
  obtain ⟨hvalid, hordinal⟩ := @dayWithin_spec year 1 (n - 1 - daysBeforeYear year) 11 hyear
    (by omega) le_rfl rfl (by omega)
  obtain rfl := Option.some.inj hfound
  exact ⟨hvalid, by omega⟩

end PhotoCatalog.Calendar
