import PhotoCatalog.Calendar.Iso
import PhotoCatalog.Proofs.Calendar.Days
import PhotoCatalog.Proofs.Text.Padded

/-!
The written forms of days and moments.  Their numbers stand in fixed columns, so that the order of
texts is the order in time, and what has been written is read back.
-/

namespace PhotoCatalog.Calendar

open PhotoCatalog.Text

variable {a b d : Date} {m n : Moment} {width k : Nat} {rest : List Char}

/-- The characters of a day, with a separator between its numbers. -/
def Date.chars (separator : Char) (d : Date) : List Char :=
  (padded 4 d.year).toList ++
    separator :: ((padded 2 d.month).toList ++ separator :: (padded 2 d.day).toList)

/-- The characters of a time of day. -/
def Moment.clockChars (m : Moment) : List Char :=
  (padded 2 m.hour).toList ++
    ':' :: ((padded 2 m.minute).toList ++ ':' :: (padded 2 m.second).toList)

/-- Moments whose day and whose time of day exist. -/
structure Moment.Valid (m : Moment) : Prop where
  date : m.date.Valid
  hour : m.hour < 24
  minute : m.minute < 60
  second : m.second < 60

/-- Moments to the second that have no offset. -/
structure Moment.IsPlain (m : Moment) : Prop extends m.Valid where
  micro : m.micro = 0
  offset : m.offset = none

/-- Three numbers in columns have only digits and separators. -/
theorem mem_columns {i j k l : Nat} {c separator : Char}
    (hc : c ∈ (padded l i).toList ++
      separator :: ((padded 2 j).toList ++ separator :: (padded 2 k).toList)) :
    c.isDigit = true ∨ c = separator := by
  simp only [List.mem_append, List.mem_cons] at hc
  rcases hc with hc | rfl | hc | rfl | hc
  · exact Or.inl (padded_allDigits _ _ c hc)
  · exact Or.inr rfl
  · exact Or.inl (padded_allDigits _ _ c hc)
  · exact Or.inr rfl
  · exact Or.inl (padded_allDigits _ _ c hc)

theorem Date.text_toList (d : Date) : d.text.toList = d.chars '-' := by
  have hhyphen : "-".toList = ['-'] := rfl
  simp only [text, chars, String.toList_append, hhyphen, List.append_assoc, List.cons_append,
    List.nil_append]

theorem Moment.IsPlain.text_toList (hm : m.IsPlain) :
    (m.textToSecond " ").toList = m.date.chars '-' ++ ' ' :: m.clockChars := by
  have hspace : " ".toList = [' '] := rfl
  have hcolon : ":".toList = [':'] := rfl
  have hnone : ((Option.map offsetText none).getD "").toList = [] := rfl
  simp only [textToSecond, hm.offset, clockText, clockChars, String.toList_append,
    Date.text_toList, hspace, hcolon, hnone, List.append_assoc, List.cons_append,
    List.nil_append, List.append_nil]

/-- The numbers of a day fit into their columns. -/
theorem Date.Valid.fits (hd : d.Valid) : d.year < 10 ^ 4 ∧ d.month < 10 ^ 2 ∧ d.day < 10 ^ 2 := by
  have hmonth := (daysInMonth_bounds d.year d.month).2
  obtain ⟨-, hyears, -, hmonths, -, hdays⟩ := hd
  rw [lastYear] at hyears
  omega

theorem Date.chars_length (hd : d.Valid) (separator : Char) : (d.chars separator).length = 10 := by
  obtain ⟨hyear, hmonth, hday⟩ := hd.fits
  simp only [chars, List.length_append, List.length_cons, padded_length (by decide : 0 < 4) hyear,
    padded_length (by decide : 0 < 2) hmonth, padded_length (by decide : 0 < 2) hday]

/-- The characters of days are ordered as the days. -/
theorem Date.chars_lt_iff (ha : a.Valid) (hb : b.Valid) (separator : Char) :
    a.chars separator < b.chars separator ↔ a.ordinal < b.ordinal := by
  obtain ⟨hyear, hmonth, hday⟩ := ha.fits
  obtain ⟨hyear', hmonth', hday'⟩ := hb.fits
  rw [ordinal_lt_iff ha hb, Precedes, chars, chars,
    append_lt_append_iff (padded_length_eq (by decide) hyear hyear'), List.cons_lt_cons_iff,
    append_lt_append_iff (padded_length_eq (by decide) hmonth hmonth'), List.cons_lt_cons_iff,
    padded_lt_iff (by decide) hyear hyear', padded_lt_iff (by decide) hmonth hmonth',
    padded_lt_iff (by decide) hday hday', padded_inj, padded_inj]
  simp

theorem Date.chars_injective (ha : a.Valid) (hb : b.Valid) {separator : Char}
    (heq : a.chars separator = b.chars separator) : a = b := by
  have hnotBelow := (chars_lt_iff ha hb separator).not
  have hnotAbove := (chars_lt_iff hb ha separator).not
  rw [heq] at hnotBelow hnotAbove
  apply ordinal_injective ha hb
  apply le_antisymm
  · exact not_lt.mp (hnotAbove.mp (lt_irrefl _))
  · exact not_lt.mp (hnotBelow.mp (lt_irrefl _))

/-- The numbers of a time of day fit into their columns. -/
theorem Moment.Valid.fits (hm : m.Valid) :
    m.hour < 10 ^ 2 ∧ m.minute < 10 ^ 2 ∧ m.second < 10 ^ 2 := by
  obtain ⟨-, hhour, hminute, hsecond⟩ := hm
  omega

theorem Moment.IsPlain.clockChars_lt_iff (hm : m.IsPlain) (hn : n.IsPlain) :
    m.clockChars < n.clockChars ↔ m.microOfDay < n.microOfDay := by
  obtain ⟨hhour, hminute, hsecond⟩ := hm.fits
  obtain ⟨hhour', hminute', hsecond'⟩ := hn.fits
  rw [clockChars, clockChars, append_lt_append_iff (padded_length_eq (by decide) hhour hhour'),
    List.cons_lt_cons_iff, append_lt_append_iff (padded_length_eq (by decide) hminute hminute'),
    List.cons_lt_cons_iff, padded_lt_iff (by decide) hhour hhour',
    padded_lt_iff (by decide) hminute hminute', padded_lt_iff (by decide) hsecond hsecond',
    padded_inj, padded_inj, microOfDay, microOfDay, hm.micro, hn.micro]
  -- A minute and an hour are longer than the numbers behind them.
  have hseconds := hm.second
  have hseconds' := hn.second
  have hminutes := hm.minute
  have hminutes' := hn.minute
  simp only [lt_irrefl, false_or, true_and]
  omega

theorem Moment.IsPlain.microOfDay_lt (hm : m.IsPlain) : m.microOfDay < microsPerDay := by
  have hhour := hm.hour
  have hminute := hm.minute
  have hsecond := hm.second
  rw [microOfDay, hm.micro, microsPerDay]
  omega

/-- The texts of moments are ordered as the moments. -/
theorem Moment.IsPlain.text_lt_iff (hm : m.IsPlain) (hn : n.IsPlain) :
    m.textToSecond " " < n.textToSecond " " ↔ m.instant < n.instant := by
  have hlength := (Date.chars_length hm.date '-').trans (Date.chars_length hn.date '-').symm
  have hday := hm.microOfDay_lt
  have hday' := hn.microOfDay_lt
  have hdates : m.date.chars '-' = n.date.chars '-' ↔ m.date.ordinal = n.date.ordinal :=
    ⟨fun h => congrArg Date.ordinal (Date.chars_injective hm.date hn.date h),
      fun h => congrArg (Date.chars '-') (Date.ordinal_injective hm.date hn.date h)⟩
  rw [String.lt_iff_toList_lt, hm.text_toList, hn.text_toList, append_lt_append_iff hlength,
    Date.chars_lt_iff hm.date hn.date, hdates, List.cons_lt_cons_iff, hm.clockChars_lt_iff hn,
    instant, instant, hm.offset, hn.offset]
  simp only [microsPerDay, lt_irrefl, false_or, true_and, Option.getD_none] at hday hday' ⊢
  omega

/-- A moment comes before the text of a day when its day comes before this day. -/
theorem Moment.IsPlain.text_lt_day_iff (hm : m.IsPlain) (hd : d.Valid) :
    m.textToSecond " " < d.text ↔ m.date.ordinal < d.ordinal := by
  have hlength := (Date.chars_length hm.date '-').trans (Date.chars_length hd '-').symm
  rw [String.lt_iff_toList_lt, hm.text_toList, Date.text_toList, ← List.append_nil (d.chars '-'),
    append_lt_append_iff hlength, Date.chars_lt_iff hm.date hd]
  simp

theorem mapM_asciiDigit? {cs : List Char} (hcs : AllDigits cs) :
    cs.mapM asciiDigit? = some (cs.map digitOf) := by
  induction cs with
  | nil => rfl
  | cons c cs ih =>
      obtain ⟨hc, hcs⟩ := List.forall_mem_cons.mp hcs
      rw [List.mapM_cons, asciiDigit?_of_isDigit hc, ih hcs]
      rfl

/-- A number is split off from what follows its column. -/
theorem takeNumber_padded (hpos : 0 < width) (hk : k < 10 ^ width) (rest : List Char) :
    takeNumber width ((padded width k).toList ++ rest) = some (k, rest) := by
  have hlength := padded_length hpos hk
  have hdigits : (padded width k).toList.mapM asciiDigit? =
      some ((padded width k).toList.map digitOf) :=
    mapM_asciiDigit? (padded_allDigits width k)
  rw [takeNumber, List.take_left' hlength, if_pos hlength, hdigits, List.drop_left' hlength,
    Option.map_some, ofDigits_map, ofDigitChars_padded]

/-- A day that has been written is read back. -/
theorem readDay?_chars (hd : d.Valid) : readDay? (d.chars '-') = some d := by
  obtain ⟨hyear, hmonth, hday⟩ := hd.fits
  obtain ⟨c, c', hchars, hc, -⟩ := exists_padded_two hmonth
  have hfound : Date.of? d.year d.month d.day = some d := if_pos hd
  have htakeMonth := takeNumber_padded (by decide : 0 < 2) hmonth
    ('-' :: (padded 2 d.day).toList)
  have htakeDay := takeNumber_padded (by decide : 0 < 2) hday []
  rw [List.append_nil] at htakeDay
  have hweek : c ≠ 'W' := ne_of_isDigit hc rfl
  rw [hchars] at htakeMonth
  rw [readDay?, Date.chars, takeNumber_padded (by decide) hyear, hchars]
  simp only [Option.bind_eq_bind, Option.bind_some, List.head?_cons, beq_self_eq_true, if_true,
    List.drop_succ_cons, List.drop_zero, List.cons_append]
  split
  · rename_i h
    exact absurd (List.cons.inj h).1 hweek
  · simp only [List.cons_append] at htakeMonth
    rw [htakeMonth]
    simp only [Option.bind_some, takeSeparator, takeChar, if_true, htakeDay, hfound]

/-- A time of day that has been written is read back. -/
theorem readClock_clockChars (hm : m.IsPlain) :
    readClock m.clockChars = some ⟨m.hour, m.minute, m.second, 0, false⟩ := by
  obtain ⟨hhour, hminute, hsecond⟩ := hm.fits
  obtain ⟨a, a', hminutes, -⟩ := exists_padded_two hminute
  obtain ⟨b, b', hseconds, -⟩ := exists_padded_two hsecond
  have htakeMinute := takeNumber_padded (by decide : 0 < 2) hminute [':', b, b']
  have htakeSecond := takeNumber_padded (by decide : 0 < 2) hsecond []
  rw [hminutes] at htakeMinute
  rw [hseconds] at htakeSecond
  rw [readClock, readClockFrom, Moment.clockChars, takeNumber_padded (by decide) hhour, hminutes,
    hseconds]
  simp only [List.cons_append, List.nil_append] at htakeMinute htakeSecond ⊢
  simp [readClockFrom, htakeMinute, htakeSecond, partsRead]

theorem beginsOffset_clockChars {c : Char} (hc : c ∈ m.clockChars) : beginsOffset c = false := by
  rcases mem_columns hc with hdigit | rfl
  · simp only [beginsOffset, Bool.or_eq_false_iff, beq_eq_false_iff_ne]
    exact ⟨⟨ne_of_isDigit hdigit rfl, ne_of_isDigit hdigit rfl⟩, ne_of_isDigit hdigit rfl⟩
  · rfl

theorem readTime?_clockChars (hm : m.IsPlain) : readTime? m.date m.clockChars = some m := by
  have hfront : m.clockChars.takeWhile (!beginsOffset ·) = m.clockChars :=
    List.takeWhile_eq_self_iff.mpr fun c hc => by rw [beginsOffset_clockChars hc]; rfl
  have hback : m.clockChars.dropWhile (!beginsOffset ·) = [] :=
    List.dropWhile_eq_nil_iff.mpr fun c hc => by rw [beginsOffset_clockChars hc]; rfl
  have hfound : Moment.of? m.date m.hour m.minute m.second 0 none = some m := by
    rw [← hm.micro, ← hm.offset]
    refine if_pos ⟨hm.hour, hm.minute, hm.second, ?_⟩
    rw [hm.micro]
    decide
  rw [readTime?, hfront, hback, readClock_clockChars hm]
  exact hfound

/-- In a day with hyphens the day ends behind ten characters. -/
theorem dayLength?_chars (hd : d.Valid) (between : Char) (rest : List Char) :
    dayLength? (d.chars '-' ++ between :: rest) = some 10 := by
  obtain ⟨hyear, hmonth, -⟩ := hd.fits
  obtain ⟨y₁, y₂, y₃, y₄, hyears, -⟩ := exists_padded_four hyear
  obtain ⟨c, c', hmonths, hc, -⟩ := exists_padded_two hmonth
  have hlong : (d.chars '-' ++ between :: rest).length ≠ 7 := by
    rw [List.length_append, Date.chars_length hd]
    omega
  have hweek : c ≠ 'W' := ne_of_isDigit hc rfl
  rw [dayLength?, if_neg hlong, Date.chars, hyears, hmonths]
  simp [hweek]

/-- A moment that has been written is read back, whatever stands between day and time. -/
theorem readMoment?_chars (hm : m.IsPlain) (between : Char) :
    readMoment? (String.ofList (m.date.chars '-' ++ between :: m.clockChars)) = some m := by
  have hlength := Date.chars_length hm.date '-'
  have hlong : ¬ (m.date.chars '-' ++ between :: m.clockChars).length < 7 := by
    rw [List.length_append, hlength]
    omega
  rw [readMoment?, String.toList_ofList]
  simp only [if_neg hlong, dayLength?_chars hm.date, List.take_left' hlength,
    List.drop_left' hlength, readDay?_chars hm.date, Option.bind_eq_bind, Option.bind_some]
  exact readTime?_clockChars hm

/-- A day that has been written with hyphens is read back. -/
theorem readDate?_chars (hd : d.Valid) : readDate? (String.ofList (d.chars '-')) = some d := by
  have hascii : (d.chars '-').all (·.toNat < 128) = true := by
    rw [List.all_eq_true]
    intro c hc
    apply decide_eq_true
    rcases mem_columns hc with hdigit | rfl
    · have hle : c.toNat ≤ 57 := (isDigit_iff.mp hdigit).2
      omega
    · decide
  rw [readDate?, String.toList_ofList, if_pos hascii, readDay?_chars hd]

theorem Date.of?_valid {year month day : Nat} (hfound : Date.of? year month day = some d) :
    d.Valid := by
  rw [of?] at hfound
  split at hfound
  · obtain rfl := Option.some.inj hfound
    assumption
  · cases hfound

theorem Date.ofWeek?_valid {year week weekday : Nat}
    (hfound : Date.ofWeek? year week weekday = some d) : d.Valid := by
  rw [ofWeek?] at hfound
  split at hfound
  · cases hfound
  · exact (ofOrdinal?_spec hfound).1

/-- Every day that is read is a day of the calendar. -/
theorem readDay?_valid {cs : List Char} (hread : readDay? cs = some d) : d.Valid := by
  obtain ⟨⟨year, rest⟩, -, hread⟩ := Option.bind_eq_some_iff.mp hread
  dsimp only at hread
  split at hread
  · obtain ⟨⟨week, rest⟩, -, hread⟩ := Option.bind_eq_some_iff.mp hread
    dsimp only at hread
    split at hread
    · exact Date.ofWeek?_valid hread
    · obtain ⟨rest, -, hread⟩ := Option.bind_eq_some_iff.mp hread
      obtain ⟨⟨weekday, rest⟩, -, hread⟩ := Option.bind_eq_some_iff.mp hread
      exact Date.ofWeek?_valid hread
  · obtain ⟨⟨month, rest⟩, -, hread⟩ := Option.bind_eq_some_iff.mp hread
    obtain ⟨rest, -, hread⟩ := Option.bind_eq_some_iff.mp hread
    obtain ⟨⟨day, rest⟩, -, hread⟩ := Option.bind_eq_some_iff.mp hread
    exact Date.of?_valid hread

theorem Moment.of?_valid {hour minute second micro : Nat} {offset : Option Int} (hd : d.Valid)
    (hfound : Moment.of? d hour minute second micro offset = some m) : m.Valid := by
  simp only [of?] at hfound
  split at hfound
  · rename_i hclock
    obtain rfl := Option.some.inj hfound
    exact ⟨hd, hclock.1, hclock.2.1, hclock.2.2.1⟩
  · cases hfound

/-- Every moment that is read is one, on a day of the calendar. -/
theorem readMoment?_valid {text : String} (hread : readMoment? text = some m) : m.Valid := by
  rw [readMoment?] at hread
  split at hread
  · cases hread
  obtain ⟨length, -, hread⟩ := Option.bind_eq_some_iff.mp hread
  obtain ⟨date, hdate, hread⟩ := Option.bind_eq_some_iff.mp hread
  have hvalid := readDay?_valid hdate
  split at hread
  · obtain rfl := Option.some.inj hread
    exact ⟨hvalid, Nat.zero_lt_succ 23, Nat.zero_lt_succ 59, Nat.zero_lt_succ 59⟩
  · obtain ⟨clock, -, hread⟩ := Option.bind_eq_some_iff.mp hread
    split at hread
    · split at hread
      · cases hread
      · exact Moment.of?_valid hvalid hread
    · obtain ⟨offset, -, hread⟩ := Option.bind_eq_some_iff.mp hread
      exact Moment.of?_valid hvalid hread

end PhotoCatalog.Calendar
