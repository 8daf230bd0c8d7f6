import PhotoCatalog.Criteria.Reader
import PhotoCatalog.Proofs.Number.Amount
import PhotoCatalog.Proofs.Outcome

/-!
What criteria are made of.  Whatever the entries of a mapping hold, the criteria that are read from
them have tokens and bounds that tell something, no opposite flags, a confidence within 0 and 1 and
a place on the globe.  The distance from the place is checked the other way round: it is refused
when it is zero or less, so that one that is not a number passes.
-/

namespace PhotoCatalog

open PhotoCatalog.Number

/-- Tokens that can be looked for: at least one, and none of them empty. -/
def AreTokens (tokens : List String) : Prop := tokens ≠ [] ∧ ∀ token ∈ tokens, token ≠ ""

/-- One or two bounds, none of them null. -/
def Bounds.AreSet (bounds : Bounds) : Prop :=
  (bounds.toList.length = 1 ∨ bounds.toList.length = 2) ∧ ∀ v ∈ bounds.toList, v.isNull = false

/-- Places on the globe with a distance that is not zero or less. -/
structure Place.IsOnGlobe (p : Place) : Prop where
  latitude : -90.0 ≤ p.latitude ∧ p.latitude ≤ 90.0
  longitude : -180.0 ≤ p.longitude ∧ p.longitude ≤ 180.0
  meters : 0.0 < p.meters ∨ isNaN p.meters = true

/-- What holds of the criteria of every search. -/
structure Criteria.WellFormed (c : Criteria) : Prop where
  tokens : ∀ facet tokens, c.tokens facet = some tokens → AreTokens tokens
  any : ∀ tokens, c.any = some tokens → AreTokens tokens
  bounds : ∀ facet bounds, c.bounds facet = some bounds → bounds.AreSet
  nudity : ¬(c.flags .hasNudity = true ∧ c.flags .noNudity = true)
  explicit : ¬(c.flags .hasExplicitContent = true ∧ c.flags .noExplicitContent = true)
  confidence : ∀ ratio, c.minConfidence = some ratio → 0.0 ≤ ratio ∧ ratio ≤ 1.0
  place : ∀ p, c.place = some p → p.IsOnGlobe

variable {name : String} {value : Value}

/-- The tokens of a value are chosen from the items that it is made of. -/
theorem exists_items (value : Value) : ∃ items : Except Fault (List Value),
    tokensOf value = items >>= fun items =>
      let tokens := ((items.filter (!·.isNull)).map Value.shown).filter (!·.isEmpty)
      pure (if tokens.isEmpty then none else some tokens) := by
  cases value with
  | null => exact ⟨pure [], rfl⟩
  | text s => exact ⟨pure [.text s], rfl⟩
  | _ => exact ⟨_, rfl⟩

theorem tokensOf_areTokens {tokens : List String} (hread : tokensOf value = .ok (some tokens)) :
    AreTokens tokens := by
  obtain ⟨step, hstep⟩ := exists_items value
  rw [hstep] at hread
  obtain ⟨items, -, hread⟩ := bind_eq_ok.mp hread
  rw [pure_eq_ok] at hread
  split at hread
  · cases hread
  · rename_i hsome
    cases hread
    refine ⟨fun hnil => hsome (List.isEmpty_iff.mpr hnil), fun token htoken => ?_⟩
    have hfull := (List.mem_filter.mp htoken).2
    rintro rfl
    exact absurd hfull (by decide)

/-- A list gives its items as bounds, when there are one or two of them and none is null. -/
theorem boundsOf_list {items : List Value} {bounds : Bounds}
    (hread : boundsOf name (.list items) = .ok (some bounds)) :
    bounds.toList = items ∧ ∀ v ∈ items, v.isNull = false := by
  match items with
  | [] => simp [boundsOf] at hread
  | [a] =>
      cases ha : a.isNull with
      | true => simp [boundsOf, ha] at hread
      | false =>
          obtain rfl : Bounds.one a = bounds := by simpa [boundsOf, ha] using hread
          exact ⟨rfl, by simp [ha]⟩
  | [a, b] =>
      cases hab : a.isNull || b.isNull with
      | true => simp [boundsOf, hab] at hread
      | false =>
          obtain ⟨ha, hb⟩ := Bool.or_eq_false_iff.mp hab
          obtain rfl : Bounds.two a b = bounds := by simpa [boundsOf, ha, hb] using hread
          exact ⟨rfl, by simp [ha, hb]⟩
  | a :: b :: c :: rest => simp [boundsOf] at hread

theorem Bounds.length_toList (bounds : Bounds) :
    bounds.toList.length = 1 ∨ bounds.toList.length = 2 := by
  cases bounds with
  | one value => exact Or.inl rfl
  | two first second => exact Or.inr rfl

theorem boundsOf_areSet {bounds : Bounds} (hread : boundsOf name value = .ok (some bounds)) :
    bounds.AreSet := by
  refine ⟨bounds.length_toList, ?_⟩
  cases value with
  | null => cases hread
  | list items =>
      obtain ⟨hitems, hset⟩ := boundsOf_list hread
      rwa [hitems]
  | _ =>
      cases hread
      simp [Bounds.toList, Value.isNull]

theorem ratioOf_within {ratio : Float} (hread : ratioOf value = .ok (some ratio)) :
    0.0 ≤ ratio ∧ ratio ≤ 1.0 := by
  rw [ratioOf.eq_def] at hread
  split at hread
  · cases hread
  · obtain ⟨x, -, hread⟩ := bind_eq_ok.mp hread
    split at hread
    · rename_i hwithin
      cases hread
      exact hwithin
    · cases hread

/-- A double that is not zero or less is more than zero, or it is not a number. -/
theorem pos_or_isNaN {x : Float} (hx : ¬x ≤ 0.0) : 0.0 < x ∨ isNaN x = true := by
  cases hnan : isNaN x with
  | true => exact Or.inr rfl
  | false =>
      have hzero : (Amount.float 0.0).isNaN = false := by decide
      have hnumber : (Amount.float x).isNaN = false := hnan
      rcases Amount.lt_or_le hzero hnumber with hless | hle
      · exact Or.inl (Amount.float_lt_float_iff.mp hless)
      · exact absurd (Amount.float_le_float_iff.mp hle) hx

theorem placeOf_isOnGlobe {p : Place} (hread : placeOf value = .ok (some p)) : p.IsOnGlobe := by
  rw [placeOf.eq_def] at hread
  split at hread
  · cases hread
  · split at hread
    · cases hread
    · obtain ⟨⟨latitude, longitude, meters⟩, -, hread⟩ := bind_eq_ok.mp hread
      dsimp only at hread
      split at hread
      · cases hread
      · rename_i hrange
        split at hread
        · cases hread
        · rename_i hmeters
          cases hread
          obtain ⟨hlatitude, hlongitude⟩ := not_or.mp hrange
          exact ⟨not_not.mp hlatitude, not_not.mp hlongitude, pos_or_isNaN hmeters⟩

/-- What a step that has been checked not to fail gives is given by the step. -/
theorem eq_ok_of_checked {α : Type} {step : Except Fault (Option α)} {a : α}
    (hchecked : checked none step = some a) : step = .ok (some a) := by
  cases step with
  | ok o => exact congrArg Except.ok hchecked
  | error fault => cases hchecked

/-- Criteria that have been read from the values of fields, each from its own field. -/
structure Criteria.IsReadFrom (field : String → Value) (c : Criteria) : Prop where
  tokens : ∀ facet tokens, c.tokens facet = some tokens →
    tokensOf (field facet.name) = .ok (some tokens)
  any : tokensOf (field "any") = .ok c.any
  bounds : ∀ facet bounds, c.bounds facet = some bounds →
    boundsOf facet.name (field facet.name) = .ok (some bounds)
  flags : ∀ facet, c.flags facet = (field facet.name).truthy
  nudity : ¬(c.flags .hasNudity = true ∧ c.flags .noNudity = true)
  explicit : ¬(c.flags .hasExplicitContent = true ∧ c.flags .noExplicitContent = true)
  confidence : ratioOf (field "min_confidence_ratio") = .ok c.minConfidence
  place : placeOf (field "geo_location") = .ok c.place

theorem Criteria.ofFields_isReadFrom {field : String → Value} {c : Criteria}
    (hread : Criteria.ofFields field = .ok c) : c.IsReadFrom field := by
  rw [Criteria.ofFields] at hread
  obtain ⟨-, -, hread⟩ := bind_eq_ok.mp hread
  obtain ⟨any, hany, hread⟩ := bind_eq_ok.mp hread
  obtain ⟨-, -, hread⟩ := bind_eq_ok.mp hread
  dsimp only at hread
  by_cases hnudity : ((field FlagFacet.hasNudity.name).truthy &&
      (field FlagFacet.noNudity.name).truthy) = true
  · rw [if_pos hnudity] at hread
    cases hread
  rw [if_neg hnudity] at hread
  by_cases hexplicit : ((field FlagFacet.hasExplicitContent.name).truthy &&
      (field FlagFacet.noExplicitContent.name).truthy) = true
  · rw [if_pos hexplicit] at hread
    cases hread
  rw [if_neg hexplicit] at hread
  obtain ⟨ratio, hratio, hread⟩ := bind_eq_ok.mp hread
  obtain ⟨place, hplace, hread⟩ := bind_eq_ok.mp hread
  cases hread
  exact {
    tokens := fun facet tokens htokens => eq_ok_of_checked htokens
    any := hany
    bounds := fun facet bounds hbounds => eq_ok_of_checked hbounds
    flags := fun facet => rfl
    nudity := fun hboth => hnudity (Bool.and_eq_true_iff.mpr hboth)
    explicit := fun hboth => hexplicit (Bool.and_eq_true_iff.mpr hboth)
    confidence := hratio
    place := hplace }

theorem Criteria.ofFields_wellFormed {field : String → Value} {c : Criteria}
    (hread : Criteria.ofFields field = .ok c) : c.WellFormed := by
  have hfrom := Criteria.ofFields_isReadFrom hread
  exact {
    tokens := fun facet tokens htokens => tokensOf_areTokens (hfrom.tokens facet tokens htokens)
    any := fun tokens htokens => tokensOf_areTokens (hfrom.any.trans (congrArg Except.ok htokens))
    bounds := fun facet bounds hbounds => boundsOf_areSet (hfrom.bounds facet bounds hbounds)
    nudity := hfrom.nudity
    explicit := hfrom.explicit
    confidence := fun x hx => ratioOf_within (hfrom.confidence.trans (congrArg Except.ok hx))
    place := fun p hp => placeOf_isOnGlobe (hfrom.place.trans (congrArg Except.ok hp)) }

/-- Criteria that are read from the entries of a mapping are well formed. -/
theorem Criteria.ofEntries_wellFormed {entries : List (String × Value)} {c : Criteria}
    (hread : Criteria.ofEntries entries = .ok c) : c.WellFormed := by
  obtain ⟨fields, -, hread⟩ := bind_eq_ok.mp hread
  exact Criteria.ofFields_wellFormed hread

/-- Entries of many kinds: a list with items that do not count, numbers as texts, a mapping. -/
def looseEntries : List (String × Value) := [
  ("Keywords", .list [.text "sunset", .null, .text "", .int 7]),
  ("people", .map [("ann", .null)]),
  ("ISO", .list [.int 400, .text "100"]),
  ("HasNudity", .int 0),
  ("no_nudity", .text "no"),
  ("GeoLocation", .list [.text "-90", .bool true, .text "inf"]),
  ("MinConfidenceRatio", .text " 0.5 ")]

theorem looseEntries_wellFormed : ∃ c, Criteria.ofEntries looseEntries = .ok c ∧ c.WellFormed ∧
    c.tokens .keywords = some ["sunset", "7"] ∧ c.minConfidence = some 0.5 := by
  obtain ⟨c, hread⟩ : ∃ c, Criteria.ofEntries looseEntries = .ok c := ⟨_, rfl⟩
  refine ⟨c, hread, Criteria.ofEntries_wellFormed hread, ?_, ?_⟩
  · cases hread
    rfl
  · cases hread
    decide

/-- A distance that is not a number passes, although it is not more than zero. -/
theorem undefined_distance_passes :
    ∃ c p, Criteria.ofEntries [("geo_location", .list [.int 0, .int 0, .float undefined])] = .ok c ∧
      c.place = some p ∧ ¬0.0 < p.meters := by
  refine ⟨_, _, rfl, rfl, ?_⟩
  decide

end PhotoCatalog
