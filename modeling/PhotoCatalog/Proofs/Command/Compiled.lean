import PhotoCatalog.Command.Run
import PhotoCatalog.Proofs.Criteria.WellFormed
import PhotoCatalog.Proofs.Query.Failing

/-!
What becomes of the texts of options.  Whatever texts are given, there is a query, or there is a
message that says what is wrong with the criteria, except where a fault escapes from the criteria.
-/

namespace PhotoCatalog

theorem RangeFacet.mem_all (facet : RangeFacet) : facet ∈ RangeFacet.all := by
  cases facet <;> decide

/-- Faults of criteria, which have a message. -/
def IsCriteriaFault (fault : Fault) : Prop := ∃ cause, fault = .criteria cause

theorem failsOnly_criteria {α : Type} (cause : CriteriaFault) :
    FailsOnly IsCriteriaFault (.error (.criteria cause) : Except Fault α) :=
  failsOnly_error.mpr ⟨cause, rfl⟩

theorem boundsOf_fails (name : String) (value : Value) :
    FailsOnly IsCriteriaFault (boundsOf name value) := by
  cases value with
  | list items =>
      rw [boundsOf.eq_def]
      dsimp only
      split
      · exact failsOnly_criteria _
      split
      · exact failsOnly_criteria _
      split
      · exact failsOnly_ok _
      · exact failsOnly_ok _
      · exact failsOnly_criteria _
  | _ => exact failsOnly_ok _

/-- A place of three doubles is on the globe, or it is refused. -/
theorem placeOf_floats_fails (latitude longitude meters : Float) :
    FailsOnly IsCriteriaFault
      (placeOf (.list [.float latitude, .float longitude, .float meters])) := by
  change FailsOnly _ (if ¬(-90.0 ≤ latitude ∧ latitude ≤ 90.0) ∨
      ¬(-180.0 ≤ longitude ∧ longitude ≤ 180.0) then
        Except.error (Fault.criteria (.placeOutOfRange latitude longitude))
      else if meters ≤ 0.0 then Except.error (Fault.criteria .distanceNotPositive)
      else Except.ok (some (Place.mk latitude longitude meters)))
  split
  · exact failsOnly_criteria _
  split
  · exact failsOnly_criteria _
  · exact failsOnly_ok _

theorem ratioOf_float_fails (x : Float) : FailsOnly IsCriteriaFault (ratioOf (.float x)) := by
  change FailsOnly _ (if 0.0 ≤ x ∧ x ≤ 1.0 then Except.ok (some x) else
    Except.error (Fault.criteria (.ratioOutOfRange x)))
  split
  · exact failsOnly_ok _
  · exact failsOnly_criteria _

namespace Command

open PhotoCatalog.Number PhotoCatalog.Query

variable {givens : Givens} {facet : RangeFacet} {bounds : RangeFacet → Value} {place : Value}
  {fault : Fault} {c : Criteria} {text : String} {value : Value}

/-- Values that stand for the bounds of a facet: null, a list of numbers, or, for dates, one of
texts. -/
inductive GivesBounds : RangeFacet → Value → Prop
  | null (facet : RangeFacet) : GivesBounds facet .null
  | numbers {facet : RangeFacet} {items : List Value} (hfacet : facet ≠ .dateTaken)
      (hitems : ∀ item ∈ items, ∃ m, item.amount? = some m) : GivesBounds facet (.list items)
  | texts (texts : List String) : GivesBounds .dateTaken (.list (texts.map .text))

theorem exists_amount_of_readNumber (hread : readNumber text = .ok value) :
    ∃ m, value.amount? = some m := by
  rw [readNumber] at hread
  split at hread
  · obtain ⟨num, -, hread⟩ := bind_eq_ok.mp hread
    obtain ⟨den, -, hread⟩ := bind_eq_ok.mp hread
    split at hread
    · cases hread
    · cases hread
      exact ⟨_, rfl⟩
  · obtain ⟨x, -, hread⟩ := bind_eq_ok.mp hread
    split at hread
    · cases hread
      exact ⟨_, rfl⟩
    · cases hread
      exact ⟨_, rfl⟩

/-- The texts of ranges give bounds, or they are no numbers. -/
theorem boundsValue_cases (givens : Givens) (facet : RangeFacet) :
    (∃ value, givens.boundsValue facet = .ok value ∧ GivesBounds facet value) ∨
      ∃ cause, givens.boundsValue facet = .error (.criteria cause) := by
  rw [Givens.boundsValue]
  cases givens.value? (.bounds facet) with
  | none => exact Or.inl ⟨.null, rfl, .null facet⟩
  | some text =>
      dsimp only
      rw [readRange]
      by_cases hfacet : facet = .dateTaken
      · subst hfacet
        exact Or.inl ⟨_, rfl, .texts (rangeParts text)⟩
      · rw [if_pos (decide_eq_true hfacet)]
        cases hnumbers : (rangeParts text).mapM readNumber with
        | error fault => exact Or.inr ⟨_, rfl⟩
        | ok numbers =>
            refine Or.inl ⟨.list numbers, rfl, .numbers hfacet fun number hnumber => ?_⟩
            obtain ⟨part, -, hread⟩ := exists_of_mem_mapM hnumbers hnumber
            exact exists_amount_of_readNumber hread

/-- Values that stand for a place: null, or three doubles. -/
inductive GivesPlace : Value → Prop
  | null : GivesPlace .null
  | floats (latitude longitude meters : Float) :
      GivesPlace (.list [.float latitude, .float longitude, .float meters])

/-- The text of a place gives three doubles, or it is no place. -/
theorem placeValue_cases (givens : Givens) :
    (∃ value, givens.placeValue = .ok value ∧ GivesPlace value) ∨
      ∃ cause, givens.placeValue = .error (.criteria cause) := by
  rw [Givens.placeValue]
  cases givens.value? .place with
  | none => exact Or.inl ⟨.null, rfl, .null⟩
  | some text =>
      dsimp only
      rw [readPlace]
      split
      · exact Or.inl ⟨_, rfl, .floats _ _ _⟩
      · exact Or.inr ⟨_, rfl⟩

/-- The values of the fields, where the bounds and the place that the options give are known. -/
def Givens.field (givens : Givens) (bounds : RangeFacet → Value) (place : Value)
    (name : String) : Value :=
  let entries := (ListFacet.all.map fun facet =>
      (facet.name, textsValue (givens.values (.tokens facet))))
    ++ (RangeFacet.all.map fun facet => (facet.name, bounds facet))
    ++ switchEntries (givens.switch? .nudity) .hasNudity .noNudity
    ++ switchEntries (givens.switch? .explicitContent) .hasExplicitContent .noExplicitContent
    ++ [("geo_location", place), ("any", textsValue (givens.values .any)),
      ("min_confidence_ratio", givens.ratioValue)]
  (entries.lookup name).getD .null

theorem field_tokens (facet : ListFacet) :
    givens.field bounds place facet.name = textsValue (givens.values (.tokens facet)) := by
  cases facet <;> rfl

theorem field_bounds (givens : Givens) (bounds : RangeFacet → Value) (place : Value)
    (facet : RangeFacet) : givens.field bounds place facet.name = bounds facet := by
  cases facet <;> rfl

theorem field_place : givens.field bounds place "geo_location" = place := rfl

theorem field_any :
    givens.field bounds place "any" = textsValue (givens.values .any) := rfl

theorem field_ratio : givens.field bounds place "min_confidence_ratio" = givens.ratioValue := rfl

/-- The bounds of all facets, where the options give them. -/
theorem ranges_eq (hbounds : ∀ facet, givens.boundsValue facet = .ok (bounds facet)) :
    (RangeFacet.all.mapM fun facet => do return (facet.name, ← givens.boundsValue facet)) =
      Except.ok (ε := Fault) (RangeFacet.all.map fun facet => (facet.name, bounds facet)) := by
  rw [mapM_eq_ok, List.map_map]
  refine List.map_congr_left fun facet _ => ?_
  rw [hbounds]
  rfl

/-- The bounds of all facets are read, or the first one that is malformed is told. -/
theorem ranges_cases (givens : Givens) :
    (∃ bounds : RangeFacet → Value, (∀ facet, GivesBounds facet (bounds facet)) ∧
      ∀ facet, givens.boundsValue facet = .ok (bounds facet)) ∨
    ∃ cause, (RangeFacet.all.mapM fun facet => do
      return (facet.name, ← givens.boundsValue facet)) = Except.error (Fault.criteria cause) := by
  have hfails : ∀ facet, FailsOnly IsCriteriaFault (givens.boundsValue facet) := fun facet => by
    rcases boundsValue_cases givens facet with ⟨value, hok, -⟩ | ⟨cause, herror⟩
    · rw [hok]
      exact failsOnly_ok value
    · rw [herror]
      exact failsOnly_criteria cause
  cases hranges : (RangeFacet.all.mapM fun facet => do
      return (facet.name, ← givens.boundsValue facet) : Except Fault _) with
  | ok ranges =>
      have hall : ∀ facet, ∃ value,
          givens.boundsValue facet = .ok value ∧ GivesBounds facet value := fun facet => by
        obtain ⟨range, hrange⟩ := exists_ok_of_mapM hranges (RangeFacet.mem_all facet)
        obtain ⟨value, hvalue, -⟩ := bind_eq_ok.mp hrange
        refine (boundsValue_cases givens facet).resolve_right ?_
        rintro ⟨cause, herror⟩
        rw [herror] at hvalue
        cases hvalue
      choose bounds hbounds hgives using hall
      exact Or.inl ⟨bounds, hgives, hbounds⟩
  | error fault =>
      right
      obtain ⟨cause, rfl⟩ : IsCriteriaFault fault := by
        refine failsOnly_mapM (fun facet _ => ?_) fault hranges
        exact (hfails facet).bind fun value _ => failsOnly_ok _
      exact ⟨cause, rfl⟩

/-- Options give the criteria of their fields, or a range or the place is malformed. -/
theorem criteria_cases (givens : Givens) :
    (∃ bounds place, (∀ facet, GivesBounds facet (bounds facet)) ∧ GivesPlace place ∧
      givens.criteria = Criteria.ofFields (givens.field bounds place)) ∨
    ∃ cause, givens.criteria = .error (.criteria cause) := by
  rw [Givens.criteria]
  rcases ranges_cases givens with ⟨bounds, hgives, hbounds⟩ | ⟨cause, hranges⟩
  · rw [ranges_eq hbounds, ok_bind]
    rcases placeValue_cases givens with ⟨place, hplace, hfloats⟩ | ⟨cause, hplace⟩
    · rw [hplace, ok_bind]
      exact Or.inl ⟨bounds, place, hgives, hfloats, congrArg Criteria.ofFields rfl⟩
    · rw [hplace]
      exact Or.inr ⟨cause, rfl⟩
  · rw [hranges]
    exact Or.inr ⟨cause, rfl⟩

theorem ratioValue_fails (givens : Givens) :
    FailsOnly IsCriteriaFault (ratioOf givens.ratioValue) := by
  rw [Givens.ratioValue]
  split
  · exact failsOnly_ok none
  · exact ratioOf_float_fails _

theorem exists_tokensOf_textsValue (texts : List String) :
    ∃ tokens, tokensOf (textsValue texts) = .ok tokens := ⟨_, rfl⟩

/-- The criteria of fields are refused only for what is wrong with them. -/
theorem ofFields_fails (hplace : GivesPlace place) :
    FailsOnly IsCriteriaFault (Criteria.ofFields (givens.field bounds place)) := by
  have hdiscard : ∀ {α : Type} {x : Except Fault α}, FailsOnly IsCriteriaFault x →
      FailsOnly IsCriteriaFault (discard x) := fun hx => hx.map
  rw [Criteria.ofFields]
  refine FailsOnly.bind (failsOnly_forM fun facet _ => hdiscard ?_) fun _ _ => ?_
  · dsimp only
    rw [field_tokens]
    obtain ⟨tokens, htokens⟩ := exists_tokensOf_textsValue (givens.values (.tokens facet))
    rw [htokens]
    exact failsOnly_ok tokens
  refine FailsOnly.bind ?_ fun any _ => ?_
  · rw [field_any]
    obtain ⟨tokens, htokens⟩ := exists_tokensOf_textsValue (givens.values .any)
    rw [htokens]
    exact failsOnly_ok tokens
  refine FailsOnly.bind (failsOnly_forM fun facet _ => hdiscard ?_) fun _ _ => ?_
  · exact boundsOf_fails _ _
  dsimp only
  split
  · exact failsOnly_criteria _
  split
  · exact failsOnly_criteria _
  refine FailsOnly.bind ?_ fun ratio _ => FailsOnly.bind ?_ fun p _ => failsOnly_ok _
  · rw [field_ratio]
    exact ratioValue_fails givens
  · rw [field_place]
    cases hplace with
    | null => exact failsOnly_ok none
    | floats latitude longitude meters => exact placeOf_floats_fails latitude longitude meters

theorem criteria_fails (givens : Givens) : FailsOnly IsCriteriaFault givens.criteria := by
  rcases criteria_cases givens with ⟨bounds, place, -, hplace, hcriteria⟩ | ⟨cause, herror⟩
  · rw [hcriteria]
    exact ofFields_fails hplace
  · rw [herror]
    exact failsOnly_criteria cause

/-- Options give numbers as bounds, texts as dates, and places on the globe. -/
theorem criteria_isSpelled (hcriteria : givens.criteria = .ok c) : c.IsSpelled := by
  rcases criteria_cases givens with ⟨bounds, place, hgives, hplace, hfields⟩ | ⟨cause, herror⟩
  · rw [hfields] at hcriteria
    have hfrom := Criteria.ofFields_isReadFrom hcriteria
    have hbounds : ∀ facet found, c.bounds facet = some found →
        boundsOf facet.name (bounds facet) = .ok (some found) := fun facet found hfound => by
      rw [← field_bounds givens bounds place]
      exact hfrom.bounds facet found hfound
    exact {
      numbers := fun facet hfacet found hfound => by
        have hread := hbounds facet found hfound
        have hkind := hgives facet
        generalize bounds facet = value at hread hkind
        cases hkind with
        | null => cases hread
        | numbers _ hitems =>
            rw [(boundsOf_list hread).1]
            exact hitems
        | texts => exact absurd rfl hfacet
      dates := fun found hfound => by
        have hread := hbounds .dateTaken found hfound
        have hkind := hgives .dateTaken
        generalize bounds .dateTaken = value at hread hkind
        cases hkind with
        | null => cases hread
        | numbers hfacet => exact absurd rfl hfacet
        | texts texts =>
            rw [(boundsOf_list hread).1]
            intro value hvalue
            obtain ⟨text, -, rfl⟩ := List.mem_map.mp hvalue
            exact ⟨text, rfl⟩
      place := (Criteria.ofFields_wellFormed hcriteria).place }
  · rw [herror] at hcriteria
    cases hcriteria

theorem compile_of_criteria {request : Request} (hcriteria : request.givens.criteria = .ok c) :
    request.compile = (Query.compile c).map fun statement => (c, statement) := by
  rw [Request.compile, hcriteria, ok_bind]
  cases Query.compile c <;> rfl

/-- Faults that escape have no message. -/
theorem message?_of_escapes (hescapes : Escapes c fault) : fault.message? = none := by
  cases hescapes <;> rfl

/-- The level of logging that a search asks for. -/
def Request.logLevel (request : Request) (settings : Settings) : String :=
  if (request.givens.switch? .verbose).isSome then "DEBUG" else settings.logLevel

theorem find_of_compile {request : Request} {world : World} {settings : Settings}
    (hsettings : Settings.load world.environment request.givens.settings = .ok settings)
    (hlevel : checkLogLevel (request.logLevel settings) = .ok ())
    (herror : request.compile = .error fault) : request.find world = .failed fault [] := by
  have hlevel' : checkLogLevel (if (request.givens.switch? .verbose).isSome = true then "DEBUG"
      else settings.logLevel) = .ok () := hlevel
  simp only [Request.find, hsettings, ok_bind, hlevel', herror]
  rfl

/-- Options come to a query, or the criteria are malformed or ask for a text that is no date, or a
fault escapes from them. -/
theorem compile_cases (request : Request) :
    (∃ c statement, request.compile = .ok (c, statement)) ∨
      (∃ cause, request.compile = .error (.criteria cause) ∧
        (request.givens.criteria = .error (.criteria cause) ∨
          ∃ c bounds text, request.givens.criteria = .ok c ∧
            c.bounds .dateTaken = some bounds ∧ NamesNoDate bounds text ∧
            cause = .malformedDate (.text text))) ∨
      ∃ c fault, request.givens.criteria = .ok c ∧ Escapes c fault := by
  cases hcriteria : request.givens.criteria with
  | error fault =>
      obtain ⟨cause, rfl⟩ := criteria_fails request.givens fault hcriteria
      refine Or.inr (Or.inl ⟨cause, ?_, Or.inl rfl⟩)
      rw [Request.compile, hcriteria]
      rfl
  | ok c =>
      have hcompile := compile_of_criteria hcriteria
      cases hquery : Query.compile c with
      | ok statement =>
          rw [hquery] at hcompile
          exact Or.inl ⟨c, statement, hcompile⟩
      | error fault =>
          rw [hquery] at hcompile
          rcases escapes_of_compile (criteria_isSpelled hcriteria) hquery with
            ⟨bounds, text, hbounds, hnodate, rfl⟩ | hescapes
          · refine Or.inr (Or.inl ⟨_, hcompile, Or.inr ?_⟩)
            exact ⟨c, bounds, text, rfl, hbounds, hnodate, rfl⟩
          · exact Or.inr (Or.inr ⟨c, fault, rfl, hescapes⟩)

theorem compile_of_escapes {request : Request} (hcriteria : request.givens.criteria = .ok c)
    (hescapes : Escapes c fault) : request.compile = .error fault := by
  rw [compile_of_criteria hcriteria, hescapes.compile (criteria_isSpelled hcriteria)]
  rfl

theorem showSql_of_compile {request : Request} (herror : request.compile = .error fault) :
    request.showSql = .failed fault [] := by
  rw [Request.showSql, herror]

/-- The request to show the query for dates that a text gives. -/
def dated (text : String) : Request := ⟨.sql, [(.bounds .dateTaken, .value text)]⟩

/-- The request to show the query for paths that a text gives. -/
def located (text : String) : Request := ⟨.sql, [(.tokens .pathLike, .value text)]⟩

end Command

end PhotoCatalog
