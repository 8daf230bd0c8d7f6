import PhotoCatalog.Proofs.Search.Kept

/-!
Criteria that ask one child table.  Their query has a single condition; a catalog with all its
tables refuses it only when it has too many tokens, and where a search with it succeeds the
condition has an answer for every image.
-/

namespace PhotoCatalog.Search

open PhotoCatalog.Catalog PhotoCatalog.Pattern PhotoCatalog.Query

/-- Criteria that ask one facet for tokens, perhaps with a threshold, and nothing else. -/
def facetCriteria (facet : ListFacet) (tokens : List String) (threshold : Option Float) :
    Criteria :=
  { Criteria.empty.asking (.list facet) tokens with minConfidence := threshold }

variable {folder : Image.Folder} {catalog : Catalog} {facet : ListFacet} {table : ChildTable}
  {tokens : List String} {threshold : Option Float}

theorem facetCriteria_tokens {f : ListFacet} {asked : List String}
    (hasked : (facetCriteria facet tokens threshold).tokens f = some asked) :
    f = facet ∧ asked = tokens := by
  by_cases hfacet : f = facet
  · subst hfacet
    simp only [facetCriteria, Criteria.asking, Function.update_self, Option.some.injEq] at hasked
    exact ⟨rfl, hasked.symm⟩
  · simp [facetCriteria, Criteria.asking, Function.update_of_ne hfacet, Criteria.empty] at hasked

theorem facetCriteria_asked (facet : ListFacet) (tokens : List String) (threshold : Option Float) :
    (facetCriteria facet tokens threshold).tokens facet = some tokens := by
  simp only [facetCriteria, Criteria.asking, Function.update_self]

theorem facetCriteria_active {f : Facet}
    (hactive : (facetCriteria facet tokens threshold).isActive f = true) : f = .list facet := by
  cases f with
  | list f =>
      obtain ⟨asked, hasked⟩ := Option.isSome_iff_exists.mp hactive
      rw [(facetCriteria_tokens hasked).1]
  | _ => cases hactive

/-- Tokens without wildcards make no patterns at all. -/
theorem facetCriteria_fits (hplain : ∀ token ∈ tokens, hasWildcards token = false)
    {facet : ListFacet} {threshold : Option Float} :
    HasFittingPatterns (facetCriteria facet tokens threshold) := by
  intro f asked hasked token htoken hwild
  rw [(facetCriteria_tokens hasked).2] at htoken
  rw [hplain token htoken] at hwild
  cases hwild

theorem tokenCondition_depth (column token : String) (substring : Bool) :
    (tokenCondition column token substring).depth = comparisonDepth ∧
      (tokenCondition column token substring).innerDepth = 0 := by
  rw [tokenCondition]
  split
  · exact ⟨by rw [Condition.depth], by simp only [Condition.innerDepth]⟩
  · exact ⟨by rw [Condition.depth], by simp only [Condition.innerDepth]⟩

/-- A single token is never nested too deeply. -/
theorem isTooDeep_singleton (table : ChildTable) (token : String) :
    isTooDeep [childCondition table [token] false] = false := by
  obtain ⟨hdepth, hinner⟩ := tokenCondition_depth table.matchColumn token false
  simp only [isTooDeep, childCondition, List.map_cons, List.map_nil, Condition.group, depthsOf,
    innerDepthOf, Condition.depth, Condition.innerDepth, hdepth, hinner]
  rfl

theorem conditions_facetCriteria {statement : Statement} (htarget : facet.target = .child table)
    (hcompile : compile (facetCriteria facet tokens threshold) = .ok statement) :
    statement.conditions = [childCondition table tokens false] := by
  have hpairs : conditionsOf (facetCriteria facet tokens threshold) =
      .ok [(.list facet, childCondition table tokens false)] := by
    cases facet <;> cases htarget <;> rfl
  obtain ⟨pairs, hpairs', hconditions, -⟩ := compile_eq_ok hcompile
  obtain rfl := Except.ok.inj (hpairs.symm.trans hpairs')
  exact hconditions

/-- A catalog with all its tables accepts the query, unless it is nested too deeply. -/
theorem refusal_facetCriteria {statement : Statement} (htarget : facet.target = .child table)
    (htables : catalog.missing = [])
    (hcompile : compile (facetCriteria facet tokens threshold) = .ok statement) :
    catalog.refusal? statement =
      if isTooDeep [childCondition table tokens false] then some .tooDeep else none := by
  rw [Catalog.refusal?, conditions_facetCriteria htarget hcompile]
  split
  · rfl
  · have hfind : ∀ names : List String, names.find? (!catalog.hasTable ·) = none := by
      intro names
      rw [List.find?_eq_none]
      simp [Catalog.hasTable, htables]
    rw [hfind]
    rfl

theorem accepts_singleton {token : String} (htarget : facet.target = .child table)
    (htables : catalog.missing = []) : ∀ statement,
      compile (facetCriteria facet [token] threshold) = .ok statement →
        catalog.refusal? statement = none := by
  intro statement hcompile
  rw [refusal_facetCriteria htarget htables hcompile, isTooDeep_singleton]
  rfl

/-- Where a search for one facet succeeds, its condition has been answered for every image. -/
theorem answers_facetCriteria (htarget : facet.target = .child table)
    (hsucceeds : Succeeds folder catalog (facetCriteria facet tokens threshold)) {image : ImageRow}
    (himage : image ∈ catalog.images) :
    (catalog.subject image).Answers (childCondition table tokens false) := by
  obtain ⟨statement, hcompile, hanswer, -⟩ := fresh_of_succeeds hsucceeds
  obtain ⟨selected, hselected⟩ := isSelected_of_no_fault hanswer himage
  have hmem : ∀ condition, condition ∈ checkOrder statement.conditions ↔
      condition = childCondition table tokens false := by
    intro condition
    rw [mem_checkOrder, conditions_facetCriteria htarget hcompile, List.mem_singleton]
  have hcases := Subject.isSelected_eq_ok hselected
  simp only [hmem, forall_eq, exists_eq_left] at hcases
  split at hcases
  · exact hcases.answers
  · exact hcases.1

/-- A search with a pattern that is too long fails when there is a text to compare with it. -/
theorem not_succeeds_of_longPattern {token : String} (htarget : facet.target = .child table)
    (hwild : hasWildcards token = true) (hlong : patternLimit < (likeForm token).utf8ByteSize)
    {image : ImageRow} (himage : image ∈ catalog.images)
    (hsome : catalog.childrenOf table image.id ≠ [])
    (hlabels : ∀ child ∈ catalog.childrenOf table image.id, ∃ s, child.label = .text s) :
    ¬ Succeeds folder catalog (facetCriteria facet [token] threshold) := by
  intro hsucceeds
  have hrows : (catalog.subject image).children table ≠ [] := fun hnone =>
    hsome (List.map_eq_nil_iff.mp hnone)
  obtain ⟨child, hchild, truth, htruth⟩ :=
    Subject.exists_answers_of_existsIn hrows (answers_facetCriteria htarget hsucceeds himage)
  obtain ⟨row, hrow, rfl⟩ := List.mem_map.mp hchild
  obtain ⟨s, hs⟩ := hlabels row hrow
  rw [List.map_cons, List.map_nil, Condition.group,
    satisfies_of_wildcards hwild ((subject_matchColumn table row).1.trans hs), if_pos hlong]
    at htruth
  cases htruth

/-- A search with too many tokens fails. -/
theorem not_succeeds_of_tooDeep (htarget : facet.target = .child table)
    (htables : catalog.missing = [])
    (hdeep : isTooDeep [childCondition table tokens false] = true) :
    ¬ Succeeds folder catalog (facetCriteria facet tokens threshold) := by
  intro hsucceeds
  obtain ⟨statement, hcompile, hanswer, -⟩ := fresh_of_succeeds hsucceeds
  have hrefused := refusal_facetCriteria htarget htables hcompile
  rw [if_pos hdeep] at hrefused
  rw [Catalog.answer, hrefused] at hanswer
  cases hanswer

end PhotoCatalog.Search
