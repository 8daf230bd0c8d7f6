import Mathlib.Data.List.Basic
import PhotoCatalog.Proofs.Query.Form
import PhotoCatalog.Proofs.Query.TokenMeaning

/-!
Criteria of one shape.  What the text of a query depends on is no more than which facets are asked
for, how many tokens and bounds there are, which tokens hold wildcards, and how dates and longitudes
are bounded; whatever else users write into criteria is bound to parameters.
-/

namespace PhotoCatalog.Query

open PhotoCatalog.Pattern

/-- How a range is written: one value, a range with both ends, or one without its upper end. -/
inductive RangeForm where
  | point | closed | halfOpen
deriving Repr, DecidableEq

/-- How a range condition is written. -/
def Condition.rangeForm? : Condition → Option RangeForm
  | .range _ _ none _ => some .point
  | .range _ _ (some _) false => some .closed
  | .range _ _ (some _) true => some .halfOpen
  | _ => none

/-- The number of longitude boxes of a region. -/
def Condition.boxCount? : Condition → Option Nat
  | .within region => some region.lonBoxes.length
  | _ => none

/-- How the range of dates is written that criteria ask for. -/
def dateForm? (c : Criteria) : Option RangeForm :=
  match facetCondition c (.range .dateTaken) with
  | .ok (some condition) => condition.rangeForm?
  | _ => none

/-- The number of longitude boxes around the place that criteria ask for. -/
def boxCount? (c : Criteria) : Option Nat :=
  match facetCondition c .geoLocation with
  | .ok (some condition) => condition.boxCount?
  | _ => none

/-- Criteria that differ only in the values that users give.  Free text is always compared with
patterns, so of its tokens the number counts alone. -/
structure SameShape (c d : Criteria) : Prop where
  active : c.activeFacets = d.activeFacets
  tokens : ∀ facet, (c.tokens facet).map (·.map hasWildcards) =
    (d.tokens facet).map (·.map hasWildcards)
  any : c.any.map List.length = d.any.map List.length
  bounds : ∀ facet, (c.bounds facet).map (·.toList.length) = (d.bounds facet).map (·.toList.length)
  dates : dateForm? c = dateForm? d
  boxes : boxCount? c = boxCount? d

/-- The form of a comparison with a token, which tells only whether it is one with a pattern. -/
def tokenForm (column : String) (isPattern : Bool) : Condition :=
  if isPattern then .like column "" true else .exact column .null true

theorem tokenCondition_form (column token : String) (substring : Bool) :
    (tokenCondition column token substring).form =
      tokenForm column (substring || hasWildcards token) := by
  have hstars : hasWildcards ("*" ++ token ++ "*") = true := by
    simp [hasWildcards, isWildcard]
  cases hwild : hasWildcards token with
  | true => simp [tokenCondition, LikePattern.ofToken, effectiveToken, hwild, tokenForm,
      Condition.form]
  | false =>
      cases substring with
      | true => simp [tokenCondition, LikePattern.ofToken, effectiveToken, hwild, hstars, tokenForm,
          Condition.form]
      | false => simp [tokenCondition, LikePattern.ofToken, effectiveToken, hwild, tokenForm,
          Condition.form]

theorem group_form (items : List Condition) :
    (Condition.group items).form = .group (items.map Condition.form) := by
  match items with
  | [] | [_] | _ :: _ :: _ => simp [Condition.group, Condition.form, formsOf_eq_map]

theorem textCondition_form (columns tokens : List String) (substring : Bool) :
    (textCondition columns tokens substring).form =
      .group ((tokens.map fun token => substring || hasWildcards token).flatMap fun isPattern =>
        columns.map (tokenForm · isPattern)) := by
  rw [textCondition, group_form, List.map_flatMap, List.flatMap_map]
  simp only [List.map_map, Function.comp_def, tokenCondition_form]

theorem childCondition_form (table : ChildTable) (tokens : List String) (substring : Bool) :
    (childCondition table tokens substring).form =
      .existsIn table (.group ((tokens.map fun token => substring || hasWildcards token).map
        (tokenForm table.matchColumn))) := by
  rw [childCondition, Condition.form, group_form]
  simp only [List.map_map, Function.comp_def, tokenCondition_form]

/-- Whether a token facet compares a token with a pattern. -/
def comparesPattern (facet : ListFacet) (token : String) : Bool :=
  facet = .pathLike || hasWildcards token

/-- The form of the condition of a token facet, by which of its tokens are patterns. -/
def listForm (facet : ListFacet) (patterns : List Bool) : Condition :=
  match facet.target with
  | .child table => .existsIn table (.group (patterns.map (tokenForm table.matchColumn)))
  | .columns names =>
    .group (patterns.flatMap fun isPattern => names.map (tokenForm · isPattern))

theorem plainCondition_form (facet : ListFacet) (plain : List String) :
    (plainCondition facet plain).form = listForm facet (plain.map (comparesPattern facet)) := by
  cases htarget : facet.target with
  | child table =>
      have hpath : facet ≠ .pathLike := by
        rintro rfl
        simp [ListFacet.target] at htarget
      have hsame : comparesPattern facet = fun token => false || hasWildcards token := by
        funext token
        simp [comparesPattern, hpath]
      simp only [plainCondition, listForm, htarget, childCondition_form, hsame]
  | columns names =>
      have hsame : comparesPattern facet =
          fun token => decide (facet = .pathLike) || hasWildcards token := rfl
      simp only [plainCondition, listForm, htarget, textCondition_form, hsame]

/-- Making tokens plain does not change which of them are patterns: file addresses become plain
paths only where all tokens are. -/
theorem comparesPattern_plain {facet : ListFacet} {tokens plain : List String}
    (hplain : tokens.map (plainToken facet) = plain.map .ok) :
    plain.map (comparesPattern facet) = tokens.map (comparesPattern facet) := by
  by_cases hpath : facet = .pathLike
  · have hlength := congrArg List.length hplain
    simp only [List.length_map] at hlength
    have hall : comparesPattern facet = fun _ => true := by
      funext token
      simp [comparesPattern, hpath]
    simp only [hall, List.map_const', hlength]
  · have hsame : plainToken facet = .ok := by
      funext token
      simp [plainToken, hpath]
    rw [hsame] at hplain
    rw [List.map_injective_iff.mpr (fun _ _ => Except.ok.inj) hplain]

theorem listCondition_form {facet : ListFacet} {tokens : List String} {condition : Condition}
    (hlist : listCondition facet tokens = .ok condition) :
    condition.form = listForm facet (tokens.map (comparesPattern facet)) := by
  obtain ⟨plain, hplain, hcondition⟩ := listCondition_eq_ok hlist
  rw [← hcondition, plainCondition_form, comparesPattern_plain hplain]

/-- The form of the conditions of one free-text token. -/
def freeTextForms : List Condition :=
  freeTextColumns.map (tokenForm · true)
    ++ ChildTable.all.map fun table => .existsIn table (tokenForm table.matchColumn true)

theorem freeTextItems_form (token : String) :
    (freeTextItems token).map Condition.form = freeTextForms := by
  rw [freeTextItems, freeTextForms, List.map_append, List.map_map, List.map_map]
  simp [Function.comp_def, tokenCondition_form, childCondition_form, Condition.group]

/-- Of free text the form tells the number of tokens. -/
theorem freeTextCondition_form (tokens : List String) :
    (freeTextCondition tokens).form =
      .anyOf ((List.replicate tokens.length freeTextForms).flatten) := by
  rw [freeTextCondition, Condition.form, formsOf_eq_map, List.map_flatMap, List.flatMap]
  simp only [freeTextItems_form, List.map_const']

/-- The form of a range condition. -/
def rangeForm (column : String) : RangeForm → Condition
  | .point => .range column .null none false
  | .closed => .range column .null (some .null) false
  | .halfOpen => .range column .null (some .null) true

theorem between_form {column : String} {low high : DateBound} {condition : Condition}
    (hbetween : between column low high = .ok condition) :
    ∃ form, condition.rangeForm? = some form ∧ condition.form = rangeForm column form := by
  cases high with
  | moment m =>
      simp only [between, Except.ok.injEq] at hbetween
      exact ⟨.closed, by simp [← hbetween, Condition.rangeForm?],
        by simp [← hbetween, Condition.form, rangeForm]⟩
  | day d =>
      rw [between] at hbetween
      split at hbetween
      · simp only [Except.ok.injEq] at hbetween
        exact ⟨.halfOpen, by simp [← hbetween, Condition.rangeForm?],
          by simp [← hbetween, Condition.form, rangeForm]⟩
      · simp at hbetween

/-- A range of dates is written in one of the three ways. -/
theorem dateRange_form {column : String} {bounds : Bounds} {condition : Condition}
    (hrange : dateRange column bounds = .ok condition) :
    ∃ form, condition.rangeForm? = some form ∧ condition.form = rangeForm column form := by
  cases bounds with
  | one value =>
      obtain ⟨bound, _, hrange⟩ := bind_eq_ok.mp hrange
      cases bound with
      | moment m =>
          simp only [pure_eq_ok] at hrange
          exact ⟨.point, by simp [← hrange, Condition.rangeForm?],
            by simp [← hrange, Condition.form, rangeForm]⟩
      | day d => exact between_form hrange
  | two first second =>
      obtain ⟨a, _, hrange⟩ := bind_eq_ok.mp hrange
      obtain ⟨b, _, hrange⟩ := bind_eq_ok.mp hrange
      split at hrange
      · simp [throw, throwThe, MonadExceptOf.throw] at hrange
      · split at hrange <;> exact between_form hrange

/-- A range of numbers is written by the number of its bounds. -/
theorem numericRange_form {column : String} {bounds : Bounds} {condition : Condition}
    (hrange : numericRange column bounds = .ok condition) :
    condition.form =
      rangeForm column (if bounds.toList.length = 1 then .point else .closed) := by
  cases bounds with
  | one value =>
      simp only [numericRange, Except.ok.injEq] at hrange
      simp [← hrange, Condition.form, rangeForm, Bounds.toList]
  | two first second =>
      obtain ⟨swapped, _, hrange⟩ := bind_eq_ok.mp hrange
      cases swapped <;>
        simp only [Bool.false_eq_true, ↓reduceIte, pure_eq_ok] at hrange <;>
        simp [← hrange, Condition.form, rangeForm, Bounds.toList]

/-- The form of the region around a place, by the number of its boxes. -/
def regionForm (boxes : Nat) : Condition :=
  .within ⟨latitudeColumn, longitudeColumn, .null, .null, 0.0, (0.0, 0.0),
    List.replicate boxes (0.0, 0.0)⟩

theorem around_columns {latColumn lonColumn : String} {latitude longitude meters : Value}
    {region : Geo.Region}
    (hregion : Geo.Region.around latColumn lonColumn latitude longitude meters = .ok region) :
    region.latColumn = latColumn ∧ region.lonColumn = lonColumn := by
  rw [Geo.Region.around] at hregion
  obtain ⟨_, -, hregion⟩ := bind_eq_ok.mp hregion
  obtain ⟨_, -, hregion⟩ := bind_eq_ok.mp hregion
  dsimp only at hregion
  split at hregion
  all_goals
    obtain ⟨delta, -, hregion⟩ := bind_eq_ok.mp hregion
    cases delta
  all_goals
    obtain ⟨boxes, -, hregion⟩ := bind_eq_ok.mp hregion
    simp only [pure_eq_ok] at hregion
    simp [← hregion]

theorem placeCondition_form {place : Place} {condition : Condition}
    (hplace : placeCondition place = .ok condition) :
    ∃ boxes, condition.boxCount? = some boxes ∧ condition.form = regionForm boxes := by
  obtain ⟨region, hregion, rfl⟩ := map_eq_ok.mp hplace
  obtain ⟨hlat, hlon⟩ := around_columns hregion
  refine ⟨region.lonBoxes.length, rfl, ?_⟩
  rw [Condition.form, regionForm, hlat, hlon, List.map_const']

variable {c d : Criteria}

theorem SameShape.isActive_eq (hshape : SameShape c d) (facet : Facet) :
    c.isActive facet = d.isActive facet := by
  have hmem : ∀ e : Criteria, facet ∈ e.activeFacets ↔ e.isActive facet = true := by
    intro e
    simp [Criteria.activeFacets, facet.mem_all]
  rw [Bool.eq_iff_iff, ← hmem c, ← hmem d, hshape.active]

/-- Criteria of one shape have conditions of one form. -/
theorem facetCondition_form (hshape : SameShape c d) {facet : Facet}
    {condition condition' : Condition} (hc : facetCondition c facet = .ok (some condition))
    (hd : facetCondition d facet = .ok (some condition')) : condition.form = condition'.form := by
  cases facet with
  | list f =>
      obtain ⟨tokens, htokens, hlist⟩ := mapM_eq_ok_some_iff.mp hc
      obtain ⟨tokens', htokens', hlist'⟩ := mapM_eq_ok_some_iff.mp hd
      have hwild := hshape.tokens f
      simp only [htokens, htokens', Option.map_some, Option.some.injEq] at hwild
      have hpatterns : ∀ ts : List String, ts.map (comparesPattern f) =
          (ts.map hasWildcards).map fun wild => decide (f = .pathLike) || wild := by
        intro ts
        rw [List.map_map]
        rfl
      rw [listCondition_form hlist, listCondition_form hlist', hpatterns, hpatterns, hwild]
  | range f =>
      obtain ⟨bounds, hbounds, hrange⟩ := mapM_eq_ok_some_iff.mp hc
      obtain ⟨bounds', hbounds', hrange'⟩ := mapM_eq_ok_some_iff.mp hd
      rw [rangeCondition] at hrange hrange'
      by_cases hdate : f = .dateTaken
      · subst hdate
        rw [if_pos rfl] at hrange hrange'
        obtain ⟨form, hform, hwritten⟩ := dateRange_form hrange
        obtain ⟨form', hform', hwritten'⟩ := dateRange_form hrange'
        have hdates := hshape.dates
        simp only [dateForm?, hc, hd, hform, hform', Option.some.injEq] at hdates
        rw [hwritten, hwritten', hdates]
      · rw [if_neg hdate] at hrange hrange'
        have hlength := hshape.bounds f
        simp only [hbounds, hbounds', Option.map_some, Option.some.injEq] at hlength
        rw [numericRange_form hrange, numericRange_form hrange', hlength]
  | flag f =>
      simp only [facetCondition, Except.ok.injEq, Option.ite_none_right_eq_some,
        Option.some.injEq] at hc hd
      rw [← hc.2, ← hd.2]
  | geoLocation =>
      obtain ⟨place, _, hplace⟩ := mapM_eq_ok_some_iff.mp hc
      obtain ⟨place', _, hplace'⟩ := mapM_eq_ok_some_iff.mp hd
      obtain ⟨boxes, hboxes, hform⟩ := placeCondition_form hplace
      obtain ⟨boxes', hboxes', hform'⟩ := placeCondition_form hplace'
      have hcount := hshape.boxes
      simp only [boxCount?, hc, hd, hboxes, hboxes', Option.some.injEq] at hcount
      rw [hform, hform', hcount]
  | any =>
      simp only [facetCondition, Except.ok.injEq, Option.map_eq_some_iff] at hc hd
      obtain ⟨tokens, htokens, rfl⟩ := hc
      obtain ⟨tokens', htokens', rfl⟩ := hd
      have hlength := hshape.any
      simp only [htokens, htokens', Option.map_some, Option.some.injEq] at hlength
      rw [freeTextCondition_form, freeTextCondition_form, hlength]

theorem conditionsFor_form (hshape : SameShape c d) {facets : List Facet}
    {pairs pairs' : List (Facet × Condition)} (hc : conditionsFor c facets = .ok pairs)
    (hd : conditionsFor d facets = .ok pairs') :
    formsOf (pairs.map (·.2)) = formsOf (pairs'.map (·.2)) := by
  -- Criteria of one shape have the same active facets, so the two lists stay in step.
  induction facets generalizing pairs pairs' with
  | nil =>
      simp only [conditionsFor, Except.ok.injEq] at hc hd
      rw [← hc, ← hd]
  | cons facet rest ih =>
      obtain ⟨found, hfound, hc⟩ := bind_eq_ok.mp hc
      obtain ⟨found', hfound', hd⟩ := bind_eq_ok.mp hd
      have hsome : found.isSome = found'.isSome := by
        rw [isSome_eq_isActive hfound, isSome_eq_isActive hfound', hshape.isActive_eq]
      cases found with
      | none =>
          cases found' with
          | none => exact ih hc hd
          | some condition' => simp at hsome
      | some condition =>
          cases found' with
          | none => simp at hsome
          | some condition' =>
              obtain ⟨tail, htail, hc⟩ := bind_eq_ok.mp hc
              obtain ⟨tail', htail', hd⟩ := bind_eq_ok.mp hd
              simp only [pure_eq_ok] at hc hd
              rw [← hc, ← hd, List.map_cons, List.map_cons, formsOf, formsOf, ih htail htail',
                facetCondition_form hshape hfound hfound']

/-- Queries for criteria of one shape have the same text, condition by condition and as a whole, and
parameters of the same names: the values that users give are bound to these and do nothing else. -/
theorem compile_of_sameShape (hshape : SameShape c d) {s t : Statement}
    (hc : compile c = .ok s) (hd : compile d = .ok t) :
    s.texts = t.texts ∧ s.sql = t.sql ∧ s.params.map (·.1) = t.params.map (·.1) := by
  obtain ⟨pairs, hpairs, _, htexts, hparams⟩ := compile_eq_ok hc
  obtain ⟨pairs', hpairs', _, htexts', hparams'⟩ := compile_eq_ok hd
  have hforms := conditionsFor_form hshape hpairs hpairs'
  have halike : Alike (renderAll imageName (pairs.map (·.2))).run
      (renderAll imageName (pairs'.map (·.2))).run := by
    have hwritten := renderAll_form imageName (pairs.map (·.2))
    rw [hforms] at hwritten
    exact hwritten.trans (renderAll_form imageName (pairs'.map (·.2))).symm
  obtain ⟨hsame, hnames⟩ := halike (Bindings.start "p") (Bindings.start "p") ⟨rfl, rfl⟩
  have hequal : s.texts = t.texts := Except.ok.inj (htexts.symm.trans (hsame.trans htexts'))
  refine ⟨hequal, ?_, ?_⟩
  · rw [Statement.sql, Statement.sql, hequal]
  · rw [← hparams, ← hparams']
    exact hnames.names

/-- Criteria for a keyword pattern, a keyword, free text, a whole number and a day. -/
def shapedCriteria (pattern keyword text day : String) (iso : Int) : Criteria where
  tokens
    | .keywords => some [pattern, keyword]
    | _ => none
  any := some [text]
  bounds
    | .iso => some (.one (.int iso))
    | .dateTaken => some (.one (.text day))
    | _ => none
  flags := fun _ => false
  place := none
  minConfidence := none

theorem compile_of_sameShape_quotes :
    ∃ s t, compile (shapedCriteria "sun*" "beach" "sea" "2024-06-15" 100) = .ok s ∧
      compile (shapedCriteria "?' OR 1=1 --" "';" "*" "1999-12-31" 0) = .ok t ∧
      s.texts = t.texts ∧ s.sql = t.sql ∧ s.params.map (·.1) = t.params.map (·.1) := by
  have hshape : SameShape (shapedCriteria "sun*" "beach" "sea" "2024-06-15" 100)
      (shapedCriteria "?' OR 1=1 --" "';" "*" "1999-12-31" 0) := by
    refine ⟨rfl, fun facet => ?_, rfl, fun facet => ?_, by decide +kernel, rfl⟩
    · cases facet <;> decide +kernel
    · cases facet <;> rfl
  have hplain : (compile (shapedCriteria "sun*" "beach" "sea" "2024-06-15" 100)).isOk = true := by
    decide +kernel
  have hquotes : (compile (shapedCriteria "?' OR 1=1 --" "';" "*" "1999-12-31" 0)).isOk = true := by
    decide +kernel
  cases hc : compile (shapedCriteria "sun*" "beach" "sea" "2024-06-15" 100) with
  | error fault => simp [hc, Except.isOk, Except.toBool] at hplain
  | ok s =>
      cases hd : compile (shapedCriteria "?' OR 1=1 --" "';" "*" "1999-12-31" 0) with
      | error fault => simp [hd, Except.isOk, Except.toBool] at hquotes
      | ok t => exact ⟨s, t, rfl, rfl, compile_of_sameShape hshape hc hd⟩

end PhotoCatalog.Query
