import PhotoCatalog.Proofs.Calendar.Written
import PhotoCatalog.Proofs.Catalog.Holds
import PhotoCatalog.Query.DateRange

/-!
What a date range accepts.  Moments are stored as texts and compared as texts; a range of days
accepts the moments of these days, the last one included, and a range of moments those between them.
-/

namespace PhotoCatalog.Query

open PhotoCatalog.Calendar PhotoCatalog.Catalog PhotoCatalog.Text

/-- Bounds whose day and whose time of day exist. -/
def DateBound.Valid : DateBound → Prop
  | .day d => d.Valid
  | .moment m => m.Valid

/-- A day written with a separator between its numbers. -/
def dayText (separator : Char) (d : Date) : String := String.ofList (d.chars separator)

/-- A moment written with a separator in its day, and with any character between day and time. -/
def momentText (separator between : Char) (m : Moment) : String :=
  String.ofList (m.date.chars separator ++ between :: m.clockChars)

/-- How a value gives a bound: as a day or a moment, as a day written with hyphens or colons, as
such a day with a time behind it, or as anything else whose text is read as the bound. -/
inductive Gives : Value → DateBound → Prop
  | day {d : Date} (hd : d.Valid) : Gives (.date d) (.day d)
  | moment {m : Moment} (hm : m.Valid) : Gives (.moment m) (.moment m)
  | dayText {d : Date} {separator : Char} (hd : d.Valid)
      (hseparator : separator = '-' ∨ separator = ':') :
      Gives (.text (dayText separator d)) (.day d)
  | momentText {m : Moment} {separator : Char} (between : Char) (hm : m.IsPlain)
      (hseparator : separator = '-' ∨ separator = ':') :
      Gives (.text (momentText separator between m)) (.moment m)
  | read {value : Value} {bound : DateBound} (hdate : ∀ d, value ≠ .date d)
      (hmoment : ∀ m, value ≠ .moment m) (hread : DateBound.read? value.shown = some bound) :
      Gives value bound

variable {a b d : Date} {m n stored : Moment} {bound : DateBound} {value : Value}

theorem DateBound.read?_valid {text : String} (hread : DateBound.read? text = some bound) :
    bound.Valid := by
  simp only [read?] at hread
  split at hread
  · obtain ⟨d, hd, rfl⟩ := Option.map_eq_some_iff.mp hread
    rw [readDate?] at hd
    split at hd
    · exact readDay?_valid hd
    · cases hd
  · obtain ⟨m, hm, rfl⟩ := Option.map_eq_some_iff.mp hread
    exact readMoment?_valid hm

/-- Colons in a day become hyphens, and hyphens stay. -/
theorem hyphenate_chars (hd : d.Valid) {separator : Char}
    (hseparator : separator = '-' ∨ separator = ':') (rest : List Char) :
    hyphenate (d.chars separator ++ rest) = d.chars '-' ++ rest := by
  obtain ⟨hyear, hmonth, hday⟩ := hd.fits
  obtain ⟨y₁, y₂, y₃, y₄, hyears, hy⟩ := exists_padded_four hyear
  obtain ⟨m₁, m₂, hmonths, hm₁, hm₂⟩ := exists_padded_two hmonth
  obtain ⟨d₁, d₂, hdays, hd₁, hd₂⟩ := exists_padded_two hday
  have hdecimal : [y₁, y₂, y₃, y₄, m₁, m₂, d₁, d₂].all isDecimal = true := by
    have hall : AllDigits [y₁, y₂, y₃, y₄, m₁, m₂, d₁, d₂] := by
      refine hy.append fun c hc => ?_
      simp only [List.mem_cons, List.not_mem_nil, or_false] at hc
      rcases hc with rfl | rfl | rfl | rfl <;> assumption
    exact List.all_eq_true.mpr fun c hc => isDecimal_of_isDigit (hall c hc)
  rw [Date.chars, Date.chars, hyears, hmonths, hdays]
  rcases hseparator with rfl | rfl
  · rfl
  · simp only [List.cons_append, List.nil_append, hyphenate, hdecimal, if_true]

theorem trim_dayText (hd : d.Valid) (separator : Char) :
    trimBy isBlank (d.chars separator) = d.chars separator := by
  obtain ⟨hyear, -, hday⟩ := hd.fits
  have htrim := trimBy_padded hyear hday
    (separator :: ((padded 2 d.month).toList ++ [separator]))
  simpa only [Date.chars, List.cons_append, List.append_assoc, List.nil_append] using htrim

theorem trim_momentText (hm : m.IsPlain) (separator between : Char) :
    trimBy isBlank (m.date.chars separator ++ between :: m.clockChars) =
      m.date.chars separator ++ between :: m.clockChars := by
  obtain ⟨hyear, -, -⟩ := hm.date.fits
  obtain ⟨-, -, hsecond⟩ := hm.fits
  have htrim := trimBy_padded hyear hsecond
    (separator :: ((padded 2 m.date.month).toList ++ separator :: ((padded 2 m.date.day).toList ++
      between :: ((padded 2 m.hour).toList ++ ':' :: ((padded 2 m.minute).toList ++ [':'])))))
  simpa only [Date.chars, Moment.clockChars, List.cons_append, List.append_assoc,
    List.nil_append] using htrim

/-- A written day is read as this day. -/
theorem read?_dayText (hd : d.Valid) {separator : Char}
    (hseparator : separator = '-' ∨ separator = ':') :
    DateBound.read? (dayText separator d) = some (.day d) := by
  have hhyphens := hyphenate_chars hd hseparator []
  rw [List.append_nil, List.append_nil] at hhyphens
  rw [DateBound.read?, dayText, String.toList_ofList, trim_dayText hd, hhyphens,
    if_pos (Date.chars_length hd '-'), readDate?_chars hd]
  rfl

/-- A written moment is read as this moment. -/
theorem read?_momentText (hm : m.IsPlain) {separator : Char}
    (hseparator : separator = '-' ∨ separator = ':') (between : Char) :
    DateBound.read? (momentText separator between m) = some (.moment m) := by
  have hlong : (m.date.chars '-' ++ between :: m.clockChars).length ≠ 10 := by
    rw [List.length_append, Date.chars_length hm.date, List.length_cons]
    omega
  rw [DateBound.read?, momentText, String.toList_ofList, trim_momentText hm,
    hyphenate_chars hm.date hseparator, if_neg hlong, readMoment?_chars hm]
  rfl

/-- A value gives the bound that it is read as, and the bound exists. -/
theorem Gives.ofValue (hgives : Gives value bound) :
    DateBound.ofValue value = .ok bound ∧ bound.Valid := by
  cases hgives with
  | day hd => exact ⟨rfl, hd⟩
  | moment hm => exact ⟨rfl, hm⟩
  | dayText hd hseparator =>
      rw [DateBound.ofValue]
      · rw [Value.shown, read?_dayText hd hseparator]
        exact ⟨rfl, hd⟩
      · exact fun _ => Value.noConfusion
      · exact fun _ => Value.noConfusion
  | momentText between hm hseparator =>
      rw [DateBound.ofValue]
      · rw [Value.shown, read?_momentText hm hseparator]
        exact ⟨rfl, hm.toValid⟩
      · exact fun _ => Value.noConfusion
      · exact fun _ => Value.noConfusion
  | read hdate hmoment hread =>
      rw [DateBound.ofValue]
      · rw [hread]
        exact ⟨rfl, DateBound.read?_valid hread⟩
      · exact hdate
      · exact hmoment

section

variable {s : Subject} {column text low high : String}

theorem compareTexts_eq_gt_iff {t u : String} : compareTexts t u = .gt ↔ u < t :=
  compareOfLessAndEq_eq_gt le_antisymm le_total not_le t u

theorem compareTexts_eq_eq_iff {t u : String} : compareTexts t u = .eq ↔ t = u :=
  compareOfLessAndEq_eq_eq le_refl not_le

/-- A column of texts is compared with a text as texts are. -/
theorem compare?_text (hcell : s.cell column = .text text) (haffinity : s.affinity column = .text) :
    s.compare? column (.text low) = some (compareTexts text low) := by
  rw [Subject.compare?, hcell, haffinity]
  rfl

theorem isSet_and (hcell : s.cell column = .text text) (truth : Truth) :
    (s.isSet column).and truth = truth := by
  rw [Subject.isSet, hcell]
  rcases truth with _ | _ | _ <;> rfl

/-- A range with its upper bound left out. -/
theorem holds_halfOpen_iff (hcell : s.cell column = .text text)
    (haffinity : s.affinity column = .text) :
    s.Holds (.range column (.text low) (some (.text high)) true) ↔ low ≤ text ∧ text < high := by
  change Except.ok ((s.isSet column).and ((s.atLeast column (.text low)).and
    (s.less column (.text high)))) = _ ↔ _
  rw [Except.ok.injEq, isSet_and hcell, Subject.atLeast, Subject.less,
    compare?_text hcell haffinity, compare?_text hcell haffinity, Option.map_some, Option.map_some,
    Truth.and_some, Option.some.injEq, Bool.and_eq_true, bne_iff_ne, beq_iff_eq, compareTexts,
    compareTexts, ne_eq, compareOfLessAndEq_eq_lt, compareOfLessAndEq_eq_lt, not_lt]

/-- A range with both bounds in it. -/
theorem holds_closed_iff (hcell : s.cell column = .text text)
    (haffinity : s.affinity column = .text) :
    s.Holds (.range column (.text low) (some (.text high)) false) ↔ low ≤ text ∧ text ≤ high := by
  change Except.ok ((s.isSet column).and ((s.atLeast column (.text low)).and
    (s.atMost column (.text high)))) = _ ↔ _
  rw [Except.ok.injEq, isSet_and hcell, Subject.atLeast, Subject.atMost,
    compare?_text hcell haffinity, compare?_text hcell haffinity, Option.map_some, Option.map_some,
    Truth.and_some, Option.some.injEq, Bool.and_eq_true, bne_iff_ne, bne_iff_ne, ne_eq, ne_eq,
    compareTexts_eq_gt_iff, compareTexts, compareOfLessAndEq_eq_lt, not_lt, not_lt]

/-- A range that is a single text. -/
theorem holds_point_iff (hcell : s.cell column = .text text)
    (haffinity : s.affinity column = .text) :
    s.Holds (.range column (.text low) none false) ↔ text = low := by
  change Except.ok ((s.isSet column).and (s.equals column (.text low))) = _ ↔ _
  rw [Except.ok.injEq, isSet_and hcell, Subject.equals, compare?_text hcell haffinity,
    Option.map_some, Option.some.injEq, beq_iff_eq, compareTexts_eq_eq_iff]

end

section

variable {s : Subject} {column : String}

/-- The column of a row holds a moment, written to the second. -/
structure Stores (s : Subject) (column : String) (stored : Moment) : Prop where
  isPlain : stored.IsPlain
  cell : s.cell column = .text (stored.textToSecond " ")
  affinity : s.affinity column = .text

/-- A range of days accepts the moments of these days, the last one included. -/
theorem between_days (hstores : Stores s column stored) (ha : a.Valid) (hb : b.Valid)
    (hlast : b ≠ lastDay) :
    ∃ condition, between column (.day a) (.day b) = .ok condition ∧
      (s.Holds condition ↔
        a.ordinal ≤ stored.date.ordinal ∧ stored.date.ordinal ≤ b.ordinal) := by
  obtain ⟨next, hnext, hvalid, hordinal⟩ := hb.next hlast
  refine ⟨.range column (.text a.text) (some (.text next.text)) true, ?_, ?_⟩
  · rw [between, hnext]
    rfl
  · rw [holds_halfOpen_iff hstores.cell hstores.affinity, ← not_lt,
      hstores.isPlain.text_lt_day_iff ha, hstores.isPlain.text_lt_day_iff hvalid, hordinal, not_lt,
      Nat.lt_succ_iff]

/-- A range of moments accepts the moments between them, both included. -/
theorem between_moments (hstores : Stores s column stored) (hm : m.IsPlain) (hn : n.IsPlain) :
    ∃ condition, between column (.moment m) (.moment n) = .ok condition ∧
      (s.Holds condition ↔ m.instant ≤ stored.instant ∧ stored.instant ≤ n.instant) := by
  refine ⟨_, rfl, ?_⟩
  change s.Holds (.range column (.text (m.textToSecond " "))
    (some (.text (n.textToSecond " "))) false) ↔ _
  rw [holds_closed_iff hstores.cell hstores.affinity, ← not_lt, ← not_lt,
    hstores.isPlain.text_lt_iff hm, hn.text_lt_iff hstores.isPlain, not_lt, not_lt]

theorem midnight_before? (a b : Date) :
    b.midnight.before? a.midnight = some (decide (b.ordinal < a.ordinal)) := by
  have hless : b.midnight.instant < a.midnight.instant ↔ b.ordinal < a.ordinal := by
    simp only [Moment.instant, Moment.microOfDay, Date.midnight, microsPerDay, Option.getD_none]
    omega
  change some (decide (b.midnight.instant < a.midnight.instant)) = _
  rw [Option.some.injEq]
  exact decide_eq_decide.mpr hless

theorem ne_lastDay_of_lt (hless : d.ordinal < lastDay.ordinal) : d ≠ lastDay := by
  rintro rfl
  exact lt_irrefl _ hless

variable {first second : Value}

/-- Two bounds are put in order first, by whatever their moments are ordered by. -/
theorem dateRange_two {α : Type} [LinearOrder α] {i j t : α} {x y : DateBound}
    (hfirst : DateBound.ofValue first = .ok x) (hsecond : DateBound.ofValue second = .ok y)
    (hbefore : y.start.before? x.start = some (decide (j < i)))
    (hordered : ∃ condition, between column x y = .ok condition ∧
      (s.Holds condition ↔ i ≤ t ∧ t ≤ j))
    (hswapped : ∃ condition, between column y x = .ok condition ∧
      (s.Holds condition ↔ j ≤ t ∧ t ≤ i)) :
    ∃ condition, dateRange column (.two first second) = .ok condition ∧
      (s.Holds condition ↔ min i j ≤ t ∧ t ≤ max i j) := by
  rw [dateRange, hfirst, hsecond, ok_bind, ok_bind, hbefore]
  by_cases hless : j < i
  · rw [min_eq_right hless.le, max_eq_left hless.le]
    simp only [hless, decide_true, if_true]
    exact hswapped
  · rw [min_eq_left (not_lt.mp hless), max_eq_right (not_lt.mp hless)]
    simp only [hless, decide_false, Bool.false_eq_true, if_false]
    exact hordered

theorem dateRange_days (hstores : Stores s column stored) (hfirst : Gives first (.day a))
    (hsecond : Gives second (.day b)) (hlast : max a.ordinal b.ordinal < lastDay.ordinal) :
    ∃ condition, dateRange column (.two first second) = .ok condition ∧
      (s.Holds condition ↔ min a.ordinal b.ordinal ≤ stored.date.ordinal ∧
        stored.date.ordinal ≤ max a.ordinal b.ordinal) := by
  obtain ⟨hreadFirst, ha⟩ := hfirst.ofValue
  obtain ⟨hreadSecond, hb⟩ := hsecond.ofValue
  obtain ⟨hlastFirst, hlastSecond⟩ := max_lt_iff.mp hlast
  apply dateRange_two hreadFirst hreadSecond (midnight_before? a b)
  · exact between_days hstores ha hb (ne_lastDay_of_lt hlastSecond)
  · exact between_days hstores hb ha (ne_lastDay_of_lt hlastFirst)

theorem dateRange_day (hstores : Stores s column stored) (hvalue : Gives value (.day d))
    (hlast : d.ordinal < lastDay.ordinal) :
    ∃ condition, dateRange column (.one value) = .ok condition ∧
      (s.Holds condition ↔ stored.date = d) := by
  obtain ⟨hread, hd⟩ := hvalue.ofValue
  obtain ⟨condition, hbetween, hholds⟩ := between_days hstores hd hd (ne_lastDay_of_lt hlast)
  refine ⟨condition, ?_, hholds.trans ?_⟩
  · rw [dateRange, hread, ok_bind]
    exact hbetween
  · rw [← le_antisymm_iff, eq_comm]
    exact ⟨Date.ordinal_injective hstores.isPlain.date hd, congrArg Date.ordinal⟩

theorem dateRange_moments (hstores : Stores s column stored) (hfirst : Gives first (.moment m))
    (hsecond : Gives second (.moment n)) (hm : m.IsPlain) (hn : n.IsPlain) :
    ∃ condition, dateRange column (.two first second) = .ok condition ∧
      (s.Holds condition ↔ min m.instant n.instant ≤ stored.instant ∧
        stored.instant ≤ max m.instant n.instant) := by
  have hbefore : n.before? m = some (decide (n.instant < m.instant)) := by
    rw [Moment.before?, hm.offset, hn.offset]
    rfl
  apply dateRange_two hfirst.ofValue.1 hsecond.ofValue.1 hbefore
  · exact between_moments hstores hm hn
  · exact between_moments hstores hn hm

theorem dateRange_moment (hstores : Stores s column stored) (hvalue : Gives value (.moment m))
    (hm : m.IsPlain) :
    ∃ condition, dateRange column (.one value) = .ok condition ∧
      (s.Holds condition ↔ stored.instant = m.instant) := by
  refine ⟨.range column (.text (m.textToSecond " ")) none false, ?_, ?_⟩
  · rw [dateRange, hvalue.ofValue.1]
    rfl
  · rw [holds_point_iff hstores.cell hstores.affinity]
    have hbelow := (hstores.isPlain.text_lt_iff hm).not
    have habove := (hm.text_lt_iff hstores.isPlain).not
    rw [not_lt, not_lt] at hbelow habove
    rw [le_antisymm_iff, habove, hbelow, ← le_antisymm_iff]

/-- Which moments a date range accepts.  Whatever the order of its bounds, a range of days accepts
those on the days between them, and a range of moments those between its bounds, all of them
included. -/
theorem dateRange_accepts (hstores : Stores s column stored) :
    (∀ first second a b, Gives first (.day a) → Gives second (.day b) →
      max a.ordinal b.ordinal < lastDay.ordinal →
      ∃ condition, dateRange column (.two first second) = .ok condition ∧
        (s.Holds condition ↔ min a.ordinal b.ordinal ≤ stored.date.ordinal ∧
          stored.date.ordinal ≤ max a.ordinal b.ordinal)) ∧
    (∀ value d, Gives value (.day d) → d.ordinal < lastDay.ordinal →
      ∃ condition, dateRange column (.one value) = .ok condition ∧
        (s.Holds condition ↔ stored.date = d)) ∧
    (∀ first second m n, Gives first (.moment m) → Gives second (.moment n) →
      m.offset = none → m.micro = 0 → n.offset = none → n.micro = 0 →
      ∃ condition, dateRange column (.two first second) = .ok condition ∧
        (s.Holds condition ↔ min m.instant n.instant ≤ stored.instant ∧
          stored.instant ≤ max m.instant n.instant)) ∧
    ∀ value m, Gives value (.moment m) → m.offset = none → m.micro = 0 →
      ∃ condition, dateRange column (.one value) = .ok condition ∧
        (s.Holds condition ↔ stored.instant = m.instant) := by
  have hplain : ∀ {value m}, Gives value (.moment m) → m.offset = none → m.micro = 0 →
      m.IsPlain := fun hgives hoffset hmicro =>
    { hgives.ofValue.2 with micro := hmicro, offset := hoffset }
  refine ⟨fun first second a b hfirst hsecond hlast => ?_, fun value d hvalue hlast => ?_,
    fun first second m n hfirst hsecond hm hm' hn hn' => ?_, fun value m hvalue hm hm' => ?_⟩
  · exact dateRange_days hstores hfirst hsecond hlast
  · exact dateRange_day hstores hvalue hlast
  · exact dateRange_moments hstores hfirst hsecond (hplain hfirst hm hm') (hplain hsecond hn hn')
  · exact dateRange_moment hstores hvalue (hplain hvalue hm hm')

end

/-- An image taken at noon of a leap day. -/
def noonImage : ImageRow :=
  ⟨1, .text "a.jpg", [("date_time_original", .text "2024-02-29 12:00:00")]⟩

theorem dateRange_accepts_leap_day :
    ∃ condition, dateRange RangeFacet.dateTaken.column
        (.two (.text "2024:03:01") (.date ⟨2024, 2, 29⟩)) = .ok condition ∧
      (Catalog.empty.subject noonImage).Holds condition := by
  have hstores : Stores (Catalog.empty.subject noonImage) RangeFacet.dateTaken.column
      ⟨⟨2024, 2, 29⟩, 12, 0, 0, 0, none⟩ := by
    have htext : Moment.textToSecond " " ⟨⟨2024, 2, 29⟩, 12, 0, 0, 0, none⟩ =
        "2024-02-29 12:00:00" := by
      decide +kernel
    refine ⟨⟨⟨by decide, by decide, by decide, by decide⟩, rfl, rfl⟩, ?_, by decide +kernel⟩
    rw [htext]
    rfl
  have hcolons : dayText ':' ⟨2024, 3, 1⟩ = "2024:03:01" := by decide +kernel
  have hfirst : Gives (.text "2024:03:01") (.day ⟨2024, 3, 1⟩) := by
    rw [← hcolons]
    exact .dayText (by decide) (Or.inr rfl)
  have hsecond : Gives (.date ⟨2024, 2, 29⟩) (.day ⟨2024, 2, 29⟩) := .day (by decide)
  obtain ⟨condition, hrange, hholds⟩ :=
    (dateRange_accepts hstores).1 _ _ _ _ hfirst hsecond (by decide)
  exact ⟨condition, hrange, hholds.mpr (by decide)⟩

end PhotoCatalog.Query
