import PhotoCatalog.Proofs.Query.DateRange

/-!
Date ranges between a day and a moment.  The two bounds are put in order by the first moment of the
day, so the day is covered as a whole when the moment falls on another day.  On the day itself the
range ends with the moment; only when this is the first moment of the day and comes before the day
in the request, the day counts as the upper bound and is covered.
-/

namespace PhotoCatalog.Calendar

variable {d : Date} {m : Moment}

/-- The instant at which a day is over. -/
def Date.endInstant (d : Date) : Int := d.midnight.instant + microsPerDay

theorem Date.midnight_instant (d : Date) : d.midnight.instant = d.ordinal * microsPerDay := by
  simp [Moment.instant, Moment.microOfDay, midnight]

theorem Moment.IsPlain.instant_eq (hm : m.IsPlain) :
    m.instant = m.date.midnight.instant + m.microOfDay := by
  rw [Date.midnight_instant, instant, hm.offset, Option.getD_none, sub_zero, Nat.cast_add,
    Nat.cast_mul]

theorem Moment.IsPlain.instant_lt_midnight_iff (hm : m.IsPlain) :
    m.instant < d.midnight.instant ↔ m.date.ordinal < d.ordinal := by
  have hday := hm.microOfDay_lt
  rw [hm.instant_eq, Date.midnight_instant, Date.midnight_instant]
  simp only [microsPerDay] at hday ⊢
  omega

theorem Moment.IsPlain.instant_lt_end_iff (hm : m.IsPlain) :
    m.instant < d.endInstant ↔ m.date.ordinal ≤ d.ordinal := by
  have hday := hm.microOfDay_lt
  rw [hm.instant_eq, Date.endInstant, Date.midnight_instant, Date.midnight_instant]
  simp only [microsPerDay] at hday ⊢
  omega

/-- A moment falls on a day when it does not come before the day, nor after its end. -/
theorem Moment.IsPlain.date_eq_iff (hm : m.IsPlain) (hd : d.Valid) :
    m.date = d ↔ d.midnight.instant ≤ m.instant ∧ m.instant < d.endInstant := by
  rw [← not_lt, hm.instant_lt_midnight_iff, hm.instant_lt_end_iff, not_lt, and_comm,
    ← le_antisymm_iff]
  exact ⟨congrArg Date.ordinal, Date.ordinal_injective hm.date hd⟩

end PhotoCatalog.Calendar

namespace PhotoCatalog.Query

open PhotoCatalog.Calendar PhotoCatalog.Catalog

variable {s : Subject} {column : String} {d : Date} {m stored : Moment}
  {first second day moment : Value} {x y : DateBound}

/-- A range from a day to a moment accepts what lies between the beginning of the day and the
moment, which is included. -/
theorem between_day_moment (hstores : Stores s column stored) (hd : d.Valid) (hm : m.IsPlain) :
    ∃ condition, between column (.day d) (.moment m) = .ok condition ∧
      (s.Holds condition ↔ d.midnight.instant ≤ stored.instant ∧ stored.instant ≤ m.instant) := by
  refine ⟨_, rfl, ?_⟩
  change s.Holds (.range column (.text d.text) (some (.text (m.textToSecond " "))) false) ↔ _
  rw [holds_closed_iff hstores.cell hstores.affinity, ← not_lt, ← not_lt,
    hstores.isPlain.text_lt_day_iff hd, hm.text_lt_iff hstores.isPlain,
    ← hstores.isPlain.instant_lt_midnight_iff, not_lt, not_lt]

/-- A range from a moment to a day accepts what lies between the moment and the end of the day. -/
theorem between_moment_day (hstores : Stores s column stored) (hm : m.IsPlain) (hd : d.Valid)
    (hlast : d ≠ lastDay) :
    ∃ condition, between column (.moment m) (.day d) = .ok condition ∧
      (s.Holds condition ↔ m.instant ≤ stored.instant ∧ stored.instant < d.endInstant) := by
  obtain ⟨next, hnext, hvalid, hordinal⟩ := hd.next hlast
  refine ⟨.range column (.text (m.textToSecond " ")) (some (.text next.text)) true, ?_, ?_⟩
  · rw [between, hnext]
    rfl
  · rw [holds_halfOpen_iff hstores.cell hstores.affinity, ← not_lt,
      hstores.isPlain.text_lt_iff hm, hstores.isPlain.text_lt_day_iff hvalid, hordinal,
      Nat.lt_succ_iff, hstores.isPlain.instant_lt_end_iff, not_lt]

/-- Two bounds are swapped when the second one begins before the first one. -/
theorem dateRange_two_eq (hfirst : DateBound.ofValue first = .ok x)
    (hsecond : DateBound.ofValue second = .ok y) (hx : x.start.offset = none)
    (hy : y.start.offset = none) :
    dateRange column (.two first second) =
      if y.start.instant < x.start.instant then between column y x else between column x y := by
  have hbefore : y.start.before? x.start = some (decide (y.start.instant < x.start.instant)) := by
    rw [Moment.before?, hx, hy]
    rfl
  rw [dateRange, hfirst, hsecond, ok_bind, ok_bind, hbefore]
  simp only [decide_eq_true_eq]

/-- What a range between a day and a moment accepts.  It begins with the earlier one of the moment
and the beginning of the day.  It ends with the moment or with the end of the day, whichever is
later, when the moment falls on another day; else it ends with the moment, unless this is the
beginning of the day and the day comes second.  In all other cases the order of the bounds does not
matter. -/
theorem dateRange_day_and_moment (hstores : Stores s column stored) (hday : Gives day (.day d))
    (hmoment : Gives moment (.moment m)) (hoffset : m.offset = none) (hmicro : m.micro = 0)
    (hlast : d.ordinal < lastDay.ordinal) :
    (∃ condition, dateRange column (.two day moment) = .ok condition ∧
      (s.Holds condition ↔ min m.instant d.midnight.instant ≤ stored.instant ∧
        (stored.instant ≤ m.instant ∨ m.date ≠ d ∧ stored.instant < d.endInstant))) ∧
    (∃ condition, dateRange column (.two moment day) = .ok condition ∧
      (s.Holds condition ↔ min m.instant d.midnight.instant ≤ stored.instant ∧
        (stored.instant ≤ m.instant ∨
          (m.date ≠ d ∨ m.instant = d.midnight.instant) ∧ stored.instant < d.endInstant))) ∧
    (m.instant ≠ d.midnight.instant →
      dateRange column (.two day moment) = dateRange column (.two moment day)) := by
  obtain ⟨hreadDay, hd⟩ := hday.ofValue
  obtain ⟨hreadMoment, hvalid⟩ := hmoment.ofValue
  have hm : m.IsPlain := { hvalid with micro := hmicro, offset := hoffset }
  have hfalls := hm.date_eq_iff hd
  obtain ⟨upToDay, hbetweenDay, hholdsDay⟩ :=
    between_moment_day hstores hm hd (ne_lastDay_of_lt hlast)
  obtain ⟨upToMoment, hbetweenMoment, hholdsMoment⟩ := between_day_moment hstores hd hm
  have hdayFirst : dateRange column (.two day moment) =
      if m.instant < d.midnight.instant then .ok upToDay else .ok upToMoment := by
    rw [dateRange_two_eq hreadDay hreadMoment rfl hoffset, hbetweenDay, hbetweenMoment]
    rfl
  have hmomentFirst : dateRange column (.two moment day) =
      if d.midnight.instant < m.instant then .ok upToMoment else .ok upToDay := by
    rw [dateRange_two_eq hreadMoment hreadDay hoffset rfl, hbetweenDay, hbetweenMoment]
    rfl
  have hend : d.midnight.instant < d.endInstant := lt_add_of_pos_right _ (by decide)
  simp only [hdayFirst, hmomentFirst, ne_eq, hfalls]
  -- The end of the day plays no part in the order of the bounds, and at a tie they stay as they
  -- come, so that only there the two requests differ.
  rcases lt_trichotomy m.instant d.midnight.instant with hbefore | hsame | hbehind
  · rw [if_pos hbefore, if_neg hbefore.not_gt]
    refine ⟨⟨upToDay, rfl, hholdsDay.trans ?_⟩, ⟨upToDay, rfl, hholdsDay.trans ?_⟩, fun _ => rfl⟩
    · omega
    · omega
  · rw [if_neg hsame.not_lt, if_neg hsame.not_gt]
    refine ⟨⟨upToMoment, rfl, hholdsMoment.trans ?_⟩, ⟨upToDay, rfl, hholdsDay.trans ?_⟩,
      fun hother => absurd hsame hother⟩
    · omega
    · omega
  · rw [if_neg hbehind.not_gt, if_pos hbehind]
    refine ⟨⟨upToMoment, rfl, hholdsMoment.trans ?_⟩, ⟨upToMoment, rfl, hholdsMoment.trans ?_⟩,
      fun _ => rfl⟩
    · omega
    · omega

/-- An image taken at a moment. -/
def imageTakenAt (m : Moment) : ImageRow :=
  ⟨1, .text "a.jpg", [("date_time_original", .text (m.textToSecond " "))]⟩

theorem imageTakenAt_stores (hm : m.IsPlain) :
    Stores (Catalog.empty.subject (imageTakenAt m)) RangeFacet.dateTaken.column m :=
  ⟨hm, rfl, rfl⟩

/-- The last second of a day is in the range from the evening before to this day. -/
theorem dateRange_day_and_moment_evening :
    ∃ condition, dateRange RangeFacet.dateTaken.column
        (.two (.text "2024:03:01") (.text "2024-02-29T20:00:00")) = .ok condition ∧
      (Catalog.empty.subject (imageTakenAt ⟨⟨2024, 3, 1⟩, 23, 59, 59, 0, none⟩)).Holds condition := by
  have hplain : Moment.IsPlain ⟨⟨2024, 3, 1⟩, 23, 59, 59, 0, none⟩ :=
    ⟨⟨by decide, by decide, by decide, by decide⟩, rfl, rfl⟩
  have hcolons : dayText ':' ⟨2024, 3, 1⟩ = "2024:03:01" := by decide +kernel
  have hday : Gives (.text "2024:03:01") (.day ⟨2024, 3, 1⟩) := by
    rw [← hcolons]
    exact .dayText (by decide) (Or.inr rfl)
  have hmoment : Gives (.text "2024-02-29T20:00:00") (.moment ⟨⟨2024, 2, 29⟩, 20, 0, 0, 0, none⟩) :=
    .read (fun _ => Value.noConfusion) (fun _ => Value.noConfusion) (by decide +kernel)
  obtain ⟨⟨condition, hrange, hholds⟩, -⟩ :=
    dateRange_day_and_moment (imageTakenAt_stores hplain) hday hmoment rfl rfl (by decide)
  exact ⟨condition, hrange, hholds.mpr (by decide)⟩

/-- A range between a day and a moment on this day leaves out the rest of the day, and whether it
covers the day that begins with the moment depends on which bound comes first. -/
theorem dateRange_cuts_day_short :
    let day : Date := ⟨2024, 3, 1⟩
    let morning : Moment := ⟨day, 10, 0, 0, 0, none⟩
    let noon : Moment := ⟨day, 12, 0, 0, 0, none⟩
    let image := Catalog.empty.subject (imageTakenAt noon)
    day.midnight.instant ≤ noon.instant ∧ noon.instant < day.endInstant ∧
    (∃ condition, dateRange RangeFacet.dateTaken.column
        (.two (.date day) (.moment morning)) = .ok condition ∧ ¬ image.Holds condition) ∧
    (∃ condition, dateRange RangeFacet.dateTaken.column
        (.two (.date day) (.moment day.midnight)) = .ok condition ∧ ¬ image.Holds condition) ∧
    (∃ condition, dateRange RangeFacet.dateTaken.column
        (.two (.moment day.midnight) (.date day)) = .ok condition ∧ image.Holds condition) := by
  intro day morning noon image
  have hday : day.Valid := by decide
  have hplain : ∀ hour < 24, Moment.IsPlain ⟨day, hour, 0, 0, 0, none⟩ := fun hour hhour =>
    ⟨⟨hday, hhour, Nat.zero_lt_succ 59, Nat.zero_lt_succ 59⟩, rfl, rfl⟩
  have hstores := imageTakenAt_stores (hplain 12 (by decide))
  have hbound : ∀ m, m.IsPlain → ¬ noon.instant ≤ m.instant → day.midnight.instant ≤ m.instant →
      ∃ condition, dateRange RangeFacet.dateTaken.column
        (.two (.date day) (.moment m)) = .ok condition ∧ ¬ image.Holds condition := by
    intro m hm hnoon hon
    obtain ⟨condition, hbetween, hholds⟩ := between_day_moment hstores hday hm
    refine ⟨condition, ?_, fun h => hnoon (hholds.mp h).2⟩
    rw [dateRange_two_eq (x := .day day) (y := .moment m) rfl rfl rfl hm.offset]
    exact (if_neg (not_lt.mpr hon)).trans hbetween
  refine ⟨by decide, by decide, hbound morning (hplain 10 (by decide)) (by decide) (by decide),
    hbound day.midnight (hplain 0 (by decide)) (by decide) (by decide), ?_⟩
  obtain ⟨condition, hbetween, hholds⟩ := between_moment_day hstores (hplain 0 (by decide)) hday
    (ne_lastDay_of_lt (by decide))
  refine ⟨condition, ?_, hholds.mpr (by decide)⟩
  rw [dateRange_two_eq (x := .moment day.midnight) (y := .day day) rfl rfl rfl rfl]
  exact (if_neg (by decide)).trans hbetween

end PhotoCatalog.Query
