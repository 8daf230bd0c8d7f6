import PhotoCatalog.Proofs.Geo.Defined
import PhotoCatalog.Proofs.Query.DateRange
import PhotoCatalog.Proofs.Query.NumericRange
import PhotoCatalog.Proofs.Query.PathToken
import PhotoCatalog.Proofs.Query.Trees

/-!
How criteria fail to become a query.  Only three facets can be without a condition, and the first
one of them that is tells the fault: paths, by an address with a malformed host; dates, by a text
that is no date, by two bounds that have no order, or by a last day that no day follows; and places.
-/

namespace PhotoCatalog

open PhotoCatalog.Address PhotoCatalog.Calendar PhotoCatalog.Geo PhotoCatalog.Number
open PhotoCatalog.Text

section Steps

variable {α : Type} {x : Except Fault α} {fault : Fault} {items : List α}

/-- Whether a step ends with a fault, whatever its result is. -/
def done (x : Except Fault α) : Except Fault Unit := x.map fun _ => ()

theorem done_eq_error : done x = .error fault ↔ x = .error fault := by
  cases x <;> simp [done, Except.map]

theorem done_eq_ok : done x = .ok () ↔ ∃ a, x = .ok a := by
  cases x <;> simp [done, Except.map]

theorem done_mapM {β : Type} {f : β → Except Fault α} (asked : Option β) :
    done (asked.mapM f) = asked.elim (.ok ()) fun b => done (f b) := by
  cases asked with
  | none => rfl
  | some b =>
      rw [Option.mapM_some]
      cases hb : f b <;> simp [done, Except.map, hb]

/-- Steps that cannot fail may be left out. -/
theorem forM_filter {step : α → Except Fault Unit} {keep : α → Bool}
    (hskip : ∀ item ∈ items, keep item = false → step item = .ok ()) :
    items.forM step = (items.filter keep).forM step := by
  induction items with
  | nil => rfl
  | cons item rest ih =>
      obtain ⟨hfirst, hrest⟩ := List.forall_mem_cons.mp hskip
      change (step item >>= fun _ => rest.forM step) = _
      rw [List.filter_cons, ih hrest]
      cases hkeep : keep item with
      | true => rfl
      | false =>
          rw [hfirst hkeep]
          rfl

end Steps

/-- Criteria whose bounds are numbers, those of dates texts, and whose place is on the globe. -/
structure Criteria.IsSpelled (c : Criteria) : Prop where
  numbers : ∀ facet ≠ .dateTaken, ∀ bounds, c.bounds facet = some bounds →
    ∀ value ∈ bounds.toList, ∃ m, value.amount? = some m
  dates : ∀ bounds, c.bounds .dateTaken = some bounds →
    ∀ value ∈ bounds.toList, ∃ text, value = .text text
  place : ∀ p, c.place = some p → p.IsOnGlobe

namespace Query

variable {c : Criteria} {fault : Fault} {bounds : Bounds}

theorem conditionsFor_done (facets : List Facet) :
    done (conditionsFor c facets) = facets.forM fun facet => done (facetCondition c facet) := by
  induction facets with
  | nil => rfl
  | cons facet rest ih =>
      change _ = (done (facetCondition c facet) >>= fun _ => rest.forM _)
      rw [← ih, conditionsFor]
      cases facetCondition c facet with
      | error fault => rfl
      | ok found =>
          cases found with
          | none => rfl
          | some condition =>
              rw [ok_bind]
              cases conditionsFor c rest <;> rfl

/-- A query fails like the conditions of its facets. -/
theorem compile_eq_error_iff : compile c = .error fault ↔ conditionsOf c = .error fault := by
  cases hpairs : conditionsOf c with
  | ok pairs =>
      obtain ⟨statement, hcompile⟩ := exists_compile hpairs
      simp [hcompile]
  | error cause =>
      have hcompile : compile c = .error cause := by
        rw [compile, hpairs]
        rfl
      simp [hcompile]

/-- Numbers have an order, so ranges of them have a condition. -/
theorem numericRange_ok (column : String)
    (hnumbers : ∀ value ∈ bounds.toList, ∃ m, value.amount? = some m) :
    ∃ condition, numericRange column bounds = .ok condition := by
  cases bounds with
  | one value => exact ⟨_, rfl⟩
  | two first second =>
      obtain ⟨m, hm⟩ := hnumbers first (by simp [Bounds.toList])
      obtain ⟨n, hn⟩ := hnumbers second (by simp [Bounds.toList])
      exact ⟨_, numericRange_of_less (less_of_numbers hm hn)⟩

/-- The facets that can be without a condition, in the order in which they are asked for. -/
def failingFacets : List Facet := [.list .pathLike, .range .dateTaken, .geoLocation]

theorem facetCondition_ok (hspelled : c.IsSpelled) {facet : Facet}
    (hother : facet ∉ failingFacets) : ∃ found, facetCondition c facet = .ok found := by
  cases facet with
  | list f =>
      have hpath : f ≠ .pathLike := fun heq => hother (by rw [heq]; decide)
      have hlist : ∀ tokens, ∃ condition, listCondition f tokens = .ok condition := by
        intro tokens
        rw [listCondition, if_neg hpath]
        cases f.target <;> exact ⟨_, rfl⟩
      cases htokens : c.tokens f with
      | none => exact ⟨none, by rw [facetCondition, htokens]; rfl⟩
      | some tokens =>
          obtain ⟨condition, hcondition⟩ := hlist tokens
          exact ⟨some condition, mapM_eq_ok_some_iff.mpr ⟨tokens, htokens, hcondition⟩⟩
  | range f =>
      have hdate : f ≠ .dateTaken := fun heq => hother (by rw [heq]; decide)
      cases hbounds : c.bounds f with
      | none => exact ⟨none, by rw [facetCondition, hbounds]; rfl⟩
      | some bounds =>
          obtain ⟨condition, hcondition⟩ :=
            numericRange_ok f.column (hspelled.numbers f hdate bounds hbounds)
          rw [← rangeCondition_numeric hdate] at hcondition
          exact ⟨some condition, mapM_eq_ok_some_iff.mpr ⟨bounds, hbounds, hcondition⟩⟩
  | flag f => exact ⟨_, rfl⟩
  | geoLocation => exact absurd (by decide) hother
  | any => exact ⟨_, rfl⟩

/-- Whether there is a query is told by three facets. -/
theorem conditionsOf_done (hspelled : c.IsSpelled) :
    done (conditionsOf c) = failingFacets.forM fun facet => done (facetCondition c facet) := by
  have hfilter : Facet.all.filter (· ∈ failingFacets) = failingFacets := by decide
  rw [conditionsOf, conditionsFor_done, ← hfilter]
  refine forM_filter fun facet _ hother => done_eq_ok.mpr ?_
  exact facetCondition_ok hspelled (of_decide_eq_false hother)

/-- Addresses of files whose host is none. -/
def HasMalformedHost (token : String) : Prop :=
  isFileUri (trimBy isBlank token.toList) = true ∧ isHost (fileLocation token).host = false

/-- A text has its plain path, unless it is an address with a malformed host. -/
theorem plainPath_cases (token : String) :
    (¬HasMalformedHost token ∧ ∃ path, plainPath token = .ok path) ∨
      HasMalformedHost token ∧ plainPath token = .error .malformedAddress := by
  rw [plainPath, HasMalformedHost]
  dsimp only
  cases huri : isFileUri (trimBy isBlank token.toList) with
  | false => exact Or.inl ⟨by simp, _, rfl⟩
  | true =>
      rw [if_pos rfl]
      change (_ ∧ ∃ path, (if isHost (fileLocation token).host then _ else _) = _) ∨
        _ ∧ (if isHost (fileLocation token).host then _ else _) = _
      cases hhost : isHost (fileLocation token).host with
      | true => exact Or.inl ⟨by simp, _, rfl⟩
      | false => exact Or.inr ⟨⟨rfl, rfl⟩, rfl⟩

/-- One of the tokens for paths has a malformed host. -/
def AsksMalformedHost (c : Criteria) : Prop :=
  ∃ tokens, c.tokens .pathLike = some tokens ∧ ∃ token ∈ tokens, HasMalformedHost token

theorem plainPaths_done (tokens : List String) :
    (¬(∃ token ∈ tokens, HasMalformedHost token) ∧ done (tokens.mapM plainPath) = .ok ()) ∨
      (∃ token ∈ tokens, HasMalformedHost token) ∧
        done (tokens.mapM plainPath) = .error .malformedAddress := by
  cases hpaths : tokens.mapM plainPath with
  | ok paths =>
      refine Or.inl ⟨?_, rfl⟩
      rintro ⟨token, htoken, hmalformed⟩
      obtain ⟨path, hpath⟩ := exists_ok_of_mapM hpaths htoken
      obtain ⟨-, herror⟩ := (plainPath_cases token).resolve_left fun h => h.1 hmalformed
      rw [herror] at hpath
      cases hpath
  | error fault =>
      right
      have hfails : FailsOnly (fun fault => fault = .malformedAddress ∧
          ∃ token ∈ tokens, HasMalformedHost token) (tokens.mapM plainPath) := by
        refine failsOnly_mapM fun token htoken => ?_
        rcases plainPath_cases token with ⟨-, path, hpath⟩ | ⟨hmalformed, herror⟩
        · rw [hpath]
          exact failsOnly_ok path
        · rw [herror]
          exact failsOnly_error.mpr ⟨rfl, token, htoken, hmalformed⟩
      obtain ⟨rfl, hmalformed⟩ := hfails fault hpaths
      exact ⟨hmalformed, rfl⟩

/-- The tokens for paths have a condition exactly when none of them is malformed. -/
theorem pathLike_done :
    ¬AsksMalformedHost c ∧ done (facetCondition c (.list .pathLike)) = .ok () ∨
      AsksMalformedHost c ∧
        done (facetCondition c (.list .pathLike)) = .error .malformedAddress := by
  rw [facetCondition, done_mapM, AsksMalformedHost]
  cases c.tokens .pathLike with
  | none => exact Or.inl ⟨by simp, rfl⟩
  | some tokens =>
      have hcondition : done (listCondition .pathLike tokens) = done (tokens.mapM plainPath) := by
        rw [listCondition, if_pos rfl]
        cases tokens.mapM plainPath <;> rfl
      simpa only [Option.elim, hcondition, Option.some.injEq, exists_eq_left'] using
        plainPaths_done tokens

/-- One of the texts between which dates are looked for is no date. -/
def NamesNoDate (bounds : Bounds) (text : String) : Prop :=
  .text text ∈ bounds.toList ∧ DateBound.read? text = none

/-- Two bounds that have no order: one of them has an offset from universal time, the other has
none. -/
def MixesOffsets (bounds : Bounds) : Prop :=
  ∃ first second a b, bounds = .two first second ∧ DateBound.ofValue first = .ok a ∧
    DateBound.ofValue second = .ok b ∧ a.start.offset.isSome ≠ b.start.offset.isSome

/-- The bound that a range of dates ends with, whatever the order of its bounds. -/
inductive EndsWith : Bounds → DateBound → Prop
  | one {value : Value} {bound : DateBound} (hread : DateBound.ofValue value = .ok bound) :
      EndsWith (.one value) bound
  | first {first second : Value} {a b : DateBound} (hfirst : DateBound.ofValue first = .ok a)
      (hsecond : DateBound.ofValue second = .ok b)
      (hswapped : b.start.before? a.start = some true) : EndsWith (.two first second) a
  | second {first second : Value} {a b : DateBound} (hfirst : DateBound.ofValue first = .ok a)
      (hsecond : DateBound.ofValue second = .ok b)
      (hordered : b.start.before? a.start = some false) : EndsWith (.two first second) b

variable {column : String} {low high bound : DateBound}

/-- A range has a condition, unless it ends with the last day of the calendar. -/
theorem between_ok (hhigh : high.Valid) (hlast : high ≠ .day lastDay) :
    ∃ condition, between column low high = .ok condition := by
  cases high with
  | moment m => exact ⟨_, rfl⟩
  | day d =>
      obtain ⟨next, hnext, -⟩ := Date.Valid.next hhigh fun heq => hlast (by rw [heq])
      rw [between, hnext]
      exact ⟨_, rfl⟩

/-- The only bounds that have no order are those of which one has an offset. -/
theorem before?_eq_none {m n : Moment} :
    m.before? n = none ↔ m.offset.isSome ≠ n.offset.isSome := by
  rw [Moment.before?]
  split
  · rename_i hsame
    simp [hsame]
  · rename_i hmixed
    exact ⟨fun _ => hmixed, fun _ => rfl⟩

/-- A text is read as a bound that exists, or it is no date. -/
theorem ofValue_text_cases (text : String) :
    (∃ bound, DateBound.ofValue (.text text) = .ok bound ∧ bound.Valid) ∨
      DateBound.read? text = none ∧
        DateBound.ofValue (.text text) = .error (.criteria (.malformedDate (.text text))) := by
  cases hread : DateBound.read? text with
  | some bound =>
      refine Or.inl ⟨bound, ?_, DateBound.read?_valid hread⟩
      simp [DateBound.ofValue, Value.shown, hread]
  | none =>
      refine Or.inr ⟨rfl, ?_⟩
      simp [DateBound.ofValue, Value.shown, hread]

theorem MixesOffsets.dateRange (hmixed : MixesOffsets bounds) :
    dateRange column bounds = .error .wrongKind := by
  obtain ⟨first, second, a, b, rfl, hfirst, hsecond, hoffsets⟩ := hmixed
  rw [Query.dateRange, hfirst, hsecond, ok_bind, ok_bind, before?_eq_none.mpr hoffsets.symm]
  rfl

theorem EndsWith.dateRange (hend : EndsWith bounds (.day lastDay)) :
    dateRange column bounds = .error .outOfRange := by
  generalize hlast : DateBound.day lastDay = last at hend
  cases hend with
  | one hread =>
      rw [Query.dateRange, hread, ok_bind, ← hlast]
      rfl
  | first hfirst hsecond hswapped =>
      rw [Query.dateRange, hfirst, hsecond, ok_bind, ok_bind, hswapped, ← hlast]
      rfl
  | second hfirst hsecond hordered =>
      rw [Query.dateRange, hfirst, hsecond, ok_bind, ok_bind, hordered, ← hlast]
      rfl

/-- A range of dates that are given as texts has a condition, or one of the texts is no date, or its
bounds have no order, or it ends with the last day of the calendar. -/
theorem dateRange_cases (htexts : ∀ value ∈ bounds.toList, ∃ text, value = .text text) :
    (∃ condition, dateRange column bounds = .ok condition) ∨
      (∃ text, NamesNoDate bounds text ∧
        dateRange column bounds = .error (.criteria (.malformedDate (.text text)))) ∨
      MixesOffsets bounds ∨ EndsWith bounds (.day lastDay) := by
  cases bounds with
  | one value =>
      obtain ⟨text, rfl⟩ := htexts value (by simp [Bounds.toList])
      rcases ofValue_text_cases text with ⟨bound, hread, hvalid⟩ | ⟨hnone, hmalformed⟩
      · by_cases hlast : bound = .day lastDay
        · exact Or.inr (Or.inr (Or.inr (.one (hlast ▸ hread))))
        · left
          rw [dateRange, hread, ok_bind]
          cases bound with
          | moment m => exact ⟨_, rfl⟩
          | day d => exact between_ok hvalid hlast
      · refine Or.inr (Or.inl ⟨text, ⟨by simp [Bounds.toList], hnone⟩, ?_⟩)
        rw [dateRange, hmalformed]
        rfl
  | two first second =>
      obtain ⟨firstText, rfl⟩ := htexts first (by simp [Bounds.toList])
      obtain ⟨secondText, rfl⟩ := htexts second (by simp [Bounds.toList])
      rcases ofValue_text_cases firstText with ⟨a, hfirst, ha⟩ | ⟨hnone, hmalformed⟩
      · rcases ofValue_text_cases secondText with ⟨b, hsecond, hb⟩ | ⟨hnone, hmalformed⟩
        · cases hbefore : b.start.before? a.start with
          | none =>
              have hoffsets := (before?_eq_none.mp hbefore).symm
              exact Or.inr (Or.inr (Or.inl ⟨_, _, a, b, rfl, hfirst, hsecond, hoffsets⟩))
          | some swapped =>
              rw [dateRange, hfirst, hsecond, ok_bind, ok_bind, hbefore]
              cases swapped with
              | true =>
                  by_cases hlast : a = .day lastDay
                  · subst hlast
                    exact Or.inr (Or.inr (Or.inr (.first hfirst hsecond hbefore)))
                  · exact Or.inl (between_ok ha hlast)
              | false =>
                  by_cases hlast : b = .day lastDay
                  · subst hlast
                    exact Or.inr (Or.inr (Or.inr (.second hfirst hsecond hbefore)))
                  · exact Or.inl (between_ok hb hlast)
        · refine Or.inr (Or.inl ⟨secondText, ⟨by simp [Bounds.toList], hnone⟩, ?_⟩)
          rw [dateRange, hfirst, hmalformed]
          rfl
      · refine Or.inr (Or.inl ⟨firstText, ⟨by simp [Bounds.toList], hnone⟩, ?_⟩)
        rw [dateRange, hmalformed]
        rfl

/-- The bounds of dates, if there are any, have a condition. -/
def HasDates (c : Criteria) : Prop :=
  ∀ bounds, c.bounds .dateTaken = some bounds →
    ∃ condition, dateRange RangeFacet.dateTaken.column bounds = .ok condition

/-- The faults, other than those of criteria, that keep criteria from becoming a query: the host of
an address is malformed; otherwise two dates have no order, or no day follows the last one; and
otherwise the sine of the angle that a place spans, an angle between 0 and 2, is negative. -/
inductive Escapes (c : Criteria) : Fault → Prop
  | host (hhost : AsksMalformedHost c) : Escapes c .malformedAddress
  | offsets {bounds : Bounds} (hpaths : ¬AsksMalformedHost c)
      (hbounds : c.bounds .dateTaken = some bounds) (hmixed : MixesOffsets bounds) :
      Escapes c .wrongKind
  | lastDay {bounds : Bounds} (hpaths : ¬AsksMalformedHost c)
      (hbounds : c.bounds .dateTaken = some bounds) (hend : EndsWith bounds (.day lastDay)) :
      Escapes c .outOfRange
  | sine {p : Place} (hpaths : ¬AsksMalformedHost c) (hdates : HasDates c)
      (hplace : c.place = some p) (hfails : placeCondition p = .error .outsideDomain)
      (hlow : ¬radius p.meters < 0.0) (hhigh : ¬2.0 < radius p.meters)
      (hsine : (radius p.meters).sin < 0.0) : Escapes c .outsideDomain

theorem dates_done : done (facetCondition c (.range .dateTaken)) =
    (c.bounds .dateTaken).elim (.ok ())
      fun bounds => done (dateRange RangeFacet.dateTaken.column bounds) :=
  done_mapM (c.bounds .dateTaken)

theorem dates_done_of_bounds (hbounds : c.bounds .dateTaken = some bounds) :
    done (facetCondition c (.range .dateTaken)) =
      done (dateRange RangeFacet.dateTaken.column bounds) := by
  rw [dates_done, hbounds]
  rfl

theorem dates_done_of_hasDates (hdates : HasDates c) :
    done (facetCondition c (.range .dateTaken)) = .ok () := by
  rw [dates_done]
  cases hbounds : c.bounds .dateTaken with
  | none => rfl
  | some bounds => exact done_eq_ok.mpr (hdates bounds hbounds)

theorem place_done : done (facetCondition c .geoLocation) =
    c.place.elim (.ok ()) fun p => done (placeCondition p) :=
  done_mapM c.place

/-- The facets are asked for in turn, up to the first fault. -/
theorem conditionsOf_done_eq (hspelled : c.IsSpelled) : done (conditionsOf c) =
    done (facetCondition c (.list .pathLike)) >>= fun _ =>
      done (facetCondition c (.range .dateTaken)) >>= fun _ =>
        done (facetCondition c .geoLocation) := by
  rw [conditionsOf_done hspelled]
  change (_ >>= fun _ => _ >>= fun _ => done (facetCondition c .geoLocation) >>= fun _ => _) = _
  cases done (facetCondition c .geoLocation) <;> rfl

/-- Where the paths are well formed, the dates are asked for next. -/
theorem conditionsOf_done_of_paths (hspelled : c.IsSpelled) (hpaths : ¬AsksMalformedHost c) :
    done (conditionsOf c) = done (facetCondition c (.range .dateTaken)) >>= fun _ =>
      done (facetCondition c .geoLocation) := by
  obtain ⟨-, hdone⟩ := pathLike_done.resolve_right fun h => hpaths h.1
  rw [conditionsOf_done_eq hspelled, hdone]
  rfl

/-- Where there are dates, or none are asked for, the place is asked for next. -/
theorem conditionsOf_done_of_dates (hspelled : c.IsSpelled) (hpaths : ¬AsksMalformedHost c)
    (hdates : HasDates c) : done (conditionsOf c) = done (facetCondition c .geoLocation) := by
  rw [conditionsOf_done_of_paths hspelled hpaths, dates_done_of_hasDates hdates]
  rfl

theorem conditionsOf_done_of_error (hspelled : c.IsSpelled) (hpaths : ¬AsksMalformedHost c)
    (hbounds : c.bounds .dateTaken = some bounds)
    (herror : dateRange RangeFacet.dateTaken.column bounds = .error fault) :
    done (conditionsOf c) = .error fault := by
  rw [conditionsOf_done_of_paths hspelled hpaths, dates_done_of_bounds hbounds, herror]
  rfl

/-- Criteria from which a fault escapes fail with it. -/
theorem Escapes.compile (hspelled : c.IsSpelled) (hescapes : Escapes c fault) :
    compile c = .error fault := by
  rw [compile_eq_error_iff, ← done_eq_error]
  cases hescapes with
  | host hhost =>
      obtain ⟨-, hdone⟩ := pathLike_done.resolve_left fun h => h.1 hhost
      rw [conditionsOf_done_eq hspelled, hdone]
      rfl
  | offsets hpaths hbounds hmixed =>
      exact conditionsOf_done_of_error hspelled hpaths hbounds hmixed.dateRange
  | lastDay hpaths hbounds hend =>
      exact conditionsOf_done_of_error hspelled hpaths hbounds hend.dateRange
  | sine hpaths hdates hplace hfails =>
      rw [conditionsOf_done_of_dates hspelled hpaths hdates, place_done, hplace, Option.elim,
        hfails]
      rfl

/-- Criteria fail to become a query with the fault of a text that is no date, or with one that
escapes. -/
theorem escapes_of_compile (hspelled : c.IsSpelled) (herror : Query.compile c = .error fault) :
    (∃ bounds text, c.bounds .dateTaken = some bounds ∧ NamesNoDate bounds text ∧
      fault = .criteria (.malformedDate (.text text))) ∨ Escapes c fault := by
  have hescapes : ∀ {fault'}, Escapes c fault' → Escapes c fault := fun {fault'} h => by
    have hsame := (h.compile hspelled).symm.trans herror
    rw [Except.error.injEq] at hsame
    exact hsame ▸ h
  rw [compile_eq_error_iff, ← done_eq_error] at herror
  by_cases hpaths : AsksMalformedHost c
  · exact Or.inr (hescapes (.host hpaths))
  by_cases hdates : HasDates c
  · rw [conditionsOf_done_of_dates hspelled hpaths hdates, place_done] at herror
    cases hplace : c.place with
    | none =>
        rw [hplace] at herror
        cases herror
    | some p =>
        rw [hplace] at herror
        have hfails := done_eq_error.mp herror
        obtain ⟨rfl, hlow, hhigh, hsine⟩ := placeCondition_eq_error (hspelled.place p hplace) hfails
        exact Or.inr (.sine hpaths hdates hplace hfails hlow hhigh hsine)
  · rw [HasDates] at hdates
    push Not at hdates
    obtain ⟨bounds, hbounds, hnone⟩ := hdates
    rcases dateRange_cases (hspelled.dates bounds hbounds) with
      ⟨condition, hok⟩ | ⟨text, hnodate, hcause⟩ | hmixed | hend
    · exact absurd hok (hnone condition)
    · rw [conditionsOf_done_of_error hspelled hpaths hbounds hcause, Except.error.injEq] at herror
      exact Or.inl ⟨bounds, text, hbounds, hnodate, herror.symm⟩
    · exact Or.inr (hescapes (.offsets hpaths hbounds hmixed))
    · exact Or.inr (hescapes (.lastDay hpaths hbounds hend))

end Query

end PhotoCatalog
