import PhotoCatalog.Proofs.Query.TokenMeaning
import PhotoCatalog.Proofs.Search.Fresh

/-!
What facets contribute to a search.  A fresh search finds the images that each active facet finds by
itself, and a facet with several tokens finds what these find one by one.
-/

namespace PhotoCatalog.Search

open PhotoCatalog.Catalog PhotoCatalog.Query

variable {folder : Image.Folder} {catalog : Catalog} {c : Criteria} {image : ImageRow}

/-- An image satisfies the condition of a facet, where that facet has one. -/
def Satisfies (catalog : Catalog) (c : Criteria) (facet : Facet) (image : ImageRow) : Prop :=
  ∀ condition, facetCondition c facet = .ok (some condition) →
    (catalog.subject image).Holds condition

/-- An image is selected when it satisfies every facet. -/
theorem selects_iff_satisfies {statement : Statement} (hcompile : compile c = .ok statement) :
    catalog.Selects statement.conditions image ↔ ∀ facet, Satisfies catalog c facet image := by
  constructor
  · intro hselects facet condition hcondition
    exact hselects condition ((mem_conditions_iff hcompile).mpr ⟨facet, hcondition⟩)
  · intro hsatisfies condition hmem
    obtain ⟨facet, hcondition⟩ := (mem_conditions_iff hcompile).mp hmem
    exact hsatisfies facet condition hcondition

/-- A facet that is not active does not constrain anything. -/
theorem satisfies_of_inactive {facet : Facet} (hinactive : c.isActive facet = false) :
    Satisfies catalog c facet image := by
  intro condition hcondition
  rw [facetCondition_eq_none_iff.mpr hinactive] at hcondition
  simp at hcondition

theorem satisfies_only_iff {kept : Facet} :
    (∀ facet, Satisfies catalog (c.only kept) facet image) ↔ Satisfies catalog c kept image := by
  simp only [Satisfies, facetCondition_only]
  constructor
  · intro hall condition hcondition
    exact hall kept condition (by rwa [if_pos rfl])
  · intro hkept facet condition hcondition
    split at hcondition
    · rename_i hsame
      exact hkept condition (hsame ▸ hcondition)
    · simp at hcondition

/-- The images that a fresh search finds are those that satisfy every facet. -/
theorem mem_foundPaths_iff_satisfies (hpaths : catalog.HasPlainPaths)
    (hthreshold : c.minConfidence = none) (hsucceeds : Succeeds folder catalog c) (path : String) :
    path ∈ foundPaths folder catalog c ↔ ∃ image ∈ catalog.images, image.pathName = path ∧
      ∀ facet, Satisfies catalog c facet image := by
  obtain ⟨statement, hcompile, _, hmem⟩ := mem_foundPaths_iff hpaths hthreshold hsucceeds
  simp only [hmem, selects_iff_satisfies hcompile]

/-- A fresh search finds the intersection of what its active facets find. -/
theorem mem_foundPaths_iff_facets (hpaths : catalog.HasPlainPaths)
    (hthreshold : c.minConfidence = none) (hsucceeds : Succeeds folder catalog c)
    (hfacets : ∀ facet ∈ c.activeFacets, Succeeds folder catalog (c.only facet)) (path : String) :
    path ∈ foundPaths folder catalog c ↔
      path ∈ catalog.images.map ImageRow.pathName ∧
        ∀ facet ∈ c.activeFacets, path ∈ foundPaths folder catalog (c.only facet) := by
  have honly : ∀ facet ∈ c.activeFacets, (path ∈ foundPaths folder catalog (c.only facet) ↔
      ∃ image ∈ catalog.images, image.pathName = path ∧ Satisfies catalog c facet image) := by
    intro facet hfacet
    have hthreshold' : (c.only facet).minConfidence = none := hthreshold
    rw [mem_foundPaths_iff_satisfies hpaths hthreshold' (hfacets facet hfacet)]
    simp only [satisfies_only_iff]
  rw [mem_foundPaths_iff_satisfies hpaths hthreshold hsucceeds, List.mem_map]
  constructor
  · rintro ⟨image, himage, hname, hall⟩
    refine ⟨⟨image, himage, hname⟩, fun facet hfacet => ?_⟩
    exact (honly facet hfacet).mpr ⟨image, himage, hname, hall facet⟩
  · rintro ⟨⟨image, himage, hname⟩, hall⟩
    refine ⟨image, himage, hname, fun facet => ?_⟩
    cases hactive : c.isActive facet with
    | false => exact satisfies_of_inactive hactive
    | true =>
        have hfacet : facet ∈ c.activeFacets := List.mem_filter.mpr ⟨facet.mem_all, hactive⟩
        obtain ⟨other, hother, hsame, hsatisfies⟩ := (honly facet hfacet).mp (hall facet hfacet)
        -- One path belongs to one image, so all facets speak of the same one.
        rwa [hpaths.eq_of_pathName_eq himage hother (hname.trans hsame.symm)]

theorem isActive_asking {facet : Facet} {tokens : List String} (htakes : facet.takesTokens = true) :
    (c.asking facet tokens).isActive facet = true := by
  cases facet with
  | list f => simp [Criteria.asking, Criteria.isActive]
  | any => simp [Criteria.asking, Criteria.isActive]
  | range _ | flag _ | geoLocation => simp [Facet.takesTokens] at htakes

theorem minConfidence_asking (facet : Facet) (tokens : List String) :
    (c.asking facet tokens).minConfidence = c.minConfidence := by
  cases facet <;> rfl

/-- A facet that is asked with tokens is satisfied exactly by the images that match one of them, as
long as the image satisfies all other facets: only then has the condition been looked at. -/
theorem satisfies_asking_iff {facet : Facet} {tokens : List String}
    (htakes : facet.takesTokens = true)
    (hsucceeds : ∃ statement, compile (c.asking facet tokens) = .ok statement ∧
      (catalog.answer statement).fault = none)
    (himage : image ∈ catalog.images)
    (hothers : ∀ other, other ≠ facet → Satisfies catalog c other image) :
    Satisfies catalog (c.asking facet tokens) facet image ↔
      ∃ token ∈ tokens, Matches facet token (catalog.subject image) := by
  obtain ⟨statement, hcompile, hanswer⟩ := hsucceeds
  obtain ⟨found, hfound⟩ := facetCondition_of_compile hcompile facet
  cases found with
  | none =>
      have hactive : (c.asking facet tokens).isActive facet = true := isActive_asking htakes
      rw [facetCondition_eq_none_iff.mp hfound] at hactive
      simp at hactive
  | some condition =>
      have hmeans := asking_means htakes hfound
      have hsatisfies : Satisfies catalog (c.asking facet tokens) facet image ↔
          (catalog.subject image).Holds condition := by
        simp only [Satisfies, hfound, Except.ok.injEq, Option.some.injEq, forall_eq']
      rw [hsatisfies]
      refine hmeans.holds_iff ?_
      obtain ⟨selected, hselected⟩ := isSelected_of_no_fault hanswer himage
      have hcases := Subject.isSelected_eq_ok hselected
      cases selected with
      | true =>
          have hmem := mem_checkOrder.mpr ((mem_conditions_iff hcompile).mpr ⟨facet, hfound⟩)
          exact ⟨some true, hcases condition hmem⟩
      | false =>
          -- The condition that was found to fail belongs to this facet, for all others hold.
          obtain ⟨failed, hmem, hanswers, hfails⟩ := hcases
          obtain ⟨other, hother⟩ := (mem_conditions_iff hcompile).mp (mem_checkOrder.mp hmem)
          by_cases hsame : other = facet
          · subst hsame
            rw [hfound, Except.ok.injEq, Option.some.injEq] at hother
            rwa [hother]
          · rw [facetCondition_asking_of_ne tokens hsame] at hother
            exact absurd (hothers other hsame failed hother) hfails

/-- A facet with several tokens finds the union of what these find one by one. -/
theorem mem_foundPaths_asking_iff (hpaths : catalog.HasPlainPaths)
    (hthreshold : c.minConfidence = none) {facet : Facet} {tokens : List String}
    (htakes : facet.takesTokens = true)
    (hsucceeds : Succeeds folder catalog (c.asking facet tokens))
    (hsingle : ∀ token ∈ tokens, Succeeds folder catalog (c.asking facet [token]))
    (path : String) :
    path ∈ foundPaths folder catalog (c.asking facet tokens) ↔
      ∃ token ∈ tokens, path ∈ foundPaths folder catalog (c.asking facet [token]) := by
  have hfinds : ∀ asked, Succeeds folder catalog (c.asking facet asked) →
      (path ∈ foundPaths folder catalog (c.asking facet asked) ↔
        ∃ image ∈ catalog.images, image.pathName = path ∧
          (∀ other, other ≠ facet → Satisfies catalog c other image) ∧
          ∃ token ∈ asked, Matches facet token (catalog.subject image)) := by
    intro asked hasked
    have hthreshold' := (minConfidence_asking (c := c) facet asked).trans hthreshold
    obtain ⟨statement, hcompile, hanswer, _⟩ := mem_foundPaths_iff hpaths hthreshold' hasked
    rw [mem_foundPaths_iff_satisfies hpaths hthreshold' hasked]
    refine exists_congr fun image => and_congr_right fun himage => and_congr_right fun _ => ?_
    have hsplit : (∀ other, Satisfies catalog (c.asking facet asked) other image) ↔
        (∀ other, other ≠ facet → Satisfies catalog c other image) ∧
          Satisfies catalog (c.asking facet asked) facet image := by
      constructor
      · refine fun hall => ⟨fun other hother condition hcondition => ?_, hall facet⟩
        rw [← facetCondition_asking_of_ne asked hother] at hcondition
        exact hall other condition hcondition
      · rintro ⟨hothers, hfacet⟩ other
        by_cases hsame : other = facet
        · exact hsame ▸ hfacet
        · intro condition hcondition
          rw [facetCondition_asking_of_ne asked hsame] at hcondition
          exact hothers other hsame condition hcondition
    rw [hsplit]
    refine and_congr_right fun hothers => ?_
    exact satisfies_asking_iff htakes ⟨statement, hcompile, hanswer⟩ himage hothers
  rw [hfinds tokens hsucceeds]
  constructor
  · rintro ⟨image, himage, hname, hothers, token, htoken, hmatches⟩
    refine ⟨token, htoken, (hfinds [token] (hsingle token htoken)).mpr ?_⟩
    exact ⟨image, himage, hname, hothers, token, List.mem_singleton_self token, hmatches⟩
  · rintro ⟨token, htoken, hfound⟩
    obtain ⟨image, himage, hname, hothers, other, hother, hmatches⟩ :=
      (hfinds [token] (hsingle token htoken)).mp hfound
    rw [List.mem_singleton.mp hother] at hmatches
    exact ⟨image, himage, hname, hothers, token, htoken, hmatches⟩

/-- A catalog of images of which nothing but the path is known. -/
def ofPaths (paths : List Cell) : Catalog :=
  paths.foldl (fun catalog path => catalog.insert ⟨path, [], fun _ => []⟩) .empty

/-- Catalogs in which every image has a path, and no two of them the same. -/
def HasOwnPaths (catalog : Catalog) : Prop :=
  (∀ image ∈ catalog.images, image.path ≠ .null) ∧ (catalog.images.map ImageRow.path).Nodup

end PhotoCatalog.Search
