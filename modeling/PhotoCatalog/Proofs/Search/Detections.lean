import PhotoCatalog.Proofs.Query.ChildTables
import PhotoCatalog.Proofs.Record.Detections
import PhotoCatalog.Proofs.Search.Facets
import PhotoCatalog.Proofs.Search.Kept
import PhotoCatalog.Proofs.Search.OneTable

/-!
Searches for detections with a threshold.  The query looks for labels in the child tables, and the
confidences reach the program inside documents; what comes out at the end are the images that have,
for every facet asked for, a child row whose label matches and whose confidence reaches the
threshold.
-/

namespace PhotoCatalog.Search

open PhotoCatalog.Catalog PhotoCatalog.Number PhotoCatalog.Pattern PhotoCatalog.Query
  PhotoCatalog.Text

/-- Criteria that ask for people, for objects or for both, and for nothing else, with tokens in
ASCII. -/
structure AsksDetections (c : Criteria) : Prop where
  asks : ∃ facet, c.isActive facet = true
  only : ∀ facet, c.isActive facet = true → facet = .list .people ∨ facet = .list .objects
  ascii : ∀ facet tokens, c.tokens facet = some tokens → ∀ token ∈ tokens, IsAscii token

/-- The child rows of an image that tell of people or objects. -/
def detectionRows (catalog : Catalog) (image : ImageRow) : List ChildRow :=
  catalog.childrenOf .people image.id ++ catalog.childrenOf .objects image.id

/-- Catalogs whose images have records, with people and objects that child rows alone tell of, and
whose labels are ASCII texts without NUL. -/
structure HasDetections (catalog : Catalog) : Prop where
  keeps : ∀ image ∈ catalog.images, catalog.KeepsDetections image
  labels : ∀ image ∈ catalog.images, ∀ child ∈ detectionRows catalog image,
    IsAscii child.labelText ∧ IsNulFree child.labelText
  readable : ∀ image ∈ catalog.images, ∀ row, catalog.resultRow image = .ok row →
    ∃ record, (Record.ofRow row).result = .ok record

/-- For every facet that is asked for, the image has a child row that matches one of the tokens with
a confidence that reaches the threshold. -/
def MatchesConfidently (catalog : Catalog) (c : Criteria) (threshold : Float) (image : ImageRow) :
    Prop :=
  ∀ facet table tokens, facet.target = .child table → c.tokens facet = some tokens →
    ∃ child ∈ catalog.childrenOf table image.id, ∃ token ∈ tokens,
      wildcardMatch token (some child.labelText) = true ∧
        reaches child.carriedConfidence (.float threshold) = true

variable {folder : Image.Folder} {catalog : Catalog} {c : Criteria} {threshold : Float}
  {image : ImageRow} {facet : ListFacet} {table : ChildTable} {tokens : List String}

/-- Facets that are asked for are answered by the people or by the objects. -/
theorem AsksDetections.answered (hasks : AsksDetections c) (htarget : facet.target = .child table)
    (htokens : c.tokens facet = some tokens) :
    facet = .people ∧ table = .people ∨ facet = .objects ∧ table = .objects := by
  have hactive : c.isActive (.list facet) = true := by
    rw [Criteria.isActive, htokens]
    rfl
  rcases hasks.only _ hactive with h | h
  · obtain rfl := Facet.list.inj h
    exact Or.inl ⟨rfl, (FacetTarget.child.inj htarget).symm⟩
  · obtain rfl := Facet.list.inj h
    exact Or.inr ⟨rfl, (FacetTarget.child.inj htarget).symm⟩

theorem AsksDetections.asksChildTables (hasks : AsksDetections c) : AsksChildTables c := by
  intro facet hactive
  rcases hasks.only facet hactive with rfl | rfl
  · exact ⟨.people, .people, rfl, rfl⟩
  · exact ⟨.objects, .objects, rfl, rfl⟩

/-- The rows of a facet that is asked for tell of detections, with labels in ASCII. -/
theorem HasDetections.row (hcatalog : HasDetections catalog) (hasks : AsksDetections c)
    (himage : image ∈ catalog.images) (htarget : facet.target = .child table)
    (htokens : c.tokens facet = some tokens) {child : ChildRow}
    (hchild : child ∈ catalog.childrenOf table image.id) :
    child.IsDetection ∧ IsAscii child.labelText ∧ IsNulFree child.labelText := by
  have hkeeps := hcatalog.keeps image himage
  rcases hasks.answered htarget htokens with ⟨-, rfl⟩ | ⟨-, rfl⟩
  · exact ⟨hkeeps.people child hchild,
      hcatalog.labels image himage child (List.mem_append_left _ hchild)⟩
  · exact ⟨hkeeps.objects child hchild,
      hcatalog.labels image himage child (List.mem_append_right _ hchild)⟩

/-- A check that a child row tells of a detection, with a label in ASCII. -/
def showsDetection (child : ChildRow) : Bool :=
  (match child.label with
    | .text s => !s.isEmpty && s.toList.all fun c => c.toNat != 0 && decide (c.toNat < 128)
    | _ => false) &&
  (match child.confidence with
    | .null => true
    | .real x => isFinite x
    | _ => false) &&
  child.corners.all fun
    | .null => true
    | .int n => fits n
    | _ => false

/-- A check that nothing but child rows tells of the people and objects of an image, and that its
row can be read. -/
def showsDetections (catalog : Catalog) (image : ImageRow) : Bool :=
  decide (image.cells.map Prod.fst = imageColumns.map Prod.fst) &&
    (detectionRows catalog image).all showsDetection &&
    (image.cell "people_json").isNull && (image.cell "objects_json").isNull &&
    match catalog.resultRow image with
    | .error _ => true
    | .ok row => (Record.ofRow row).result.isOk

theorem isDetection_of_shows {child : ChildRow} (hshows : showsDetection child = true) :
    child.IsDetection ∧ IsAscii child.labelText ∧ IsNulFree child.labelText := by
  rw [showsDetection, Bool.and_eq_true, Bool.and_eq_true] at hshows
  obtain ⟨⟨hlabel, hconfidence⟩, hcorners⟩ := hshows
  split at hlabel
  · rename_i s hs
    rw [Bool.and_eq_true, List.all_eq_true] at hlabel
    have hchars : ∀ c ∈ s.toList, c.toNat ≠ 0 ∧ c.toNat < 128 := by
      intro c hc
      simpa using hlabel.2 c hc
    rw [ChildRow.labelText, hs]
    refine ⟨⟨⟨s, hs, ?_⟩, ?_, fun cell hcell => ?_⟩, fun c hc => (hchars c hc).2,
      fun c hc => (hchars c hc).1⟩
    · rintro rfl
      simp at hlabel
    · split at hconfidence
      · exact Or.inl ‹_›
      · exact Or.inr ⟨_, ‹_›, hconfidence⟩
      · cases hconfidence
    · have hcorner := List.all_eq_true.mp hcorners cell hcell
      split at hcorner
      · exact Or.inl rfl
      · exact Or.inr ⟨_, rfl, hcorner⟩
      · cases hcorner
  · cases hlabel

theorem listsNoPredictions_of_null {cell : Cell} (hnull : cell.isNull = true) (name : String)
    {document : Value} (hload : (loadDocument name cell.toValue).result = .ok document) :
    document.ListsNoPredictions := by
  cases cell with
  | null =>
      obtain rfl := Except.ok.inj hload
      rintro items ⟨⟩
  | _ => cases hnull

/-- A catalog that passes the check has detections. -/
theorem hasDetections_of_shows
    (hshows : catalog.images.all (showsDetections catalog) = true) : HasDetections catalog := by
  have hall : ∀ image ∈ catalog.images, _ := fun image himage => by
    have himage := List.all_eq_true.mp hshows image himage
    simp only [showsDetections, Bool.and_eq_true, decide_eq_true_eq, List.all_eq_true] at himage
    exact himage
  have hrow : ∀ image ∈ catalog.images, ∀ child ∈ detectionRows catalog image,
      child.IsDetection ∧ IsAscii child.labelText ∧ IsNulFree child.labelText :=
    fun image himage child hchild => isDetection_of_shows ((hall image himage).1.1.1.2 child hchild)
  refine ⟨fun image himage => ?_,
    fun image himage child hchild => (hrow image himage child hchild).2,
    fun image himage row hrow => ?_⟩
  · obtain ⟨⟨⟨⟨hcolumns, -⟩, hpeople⟩, hobjects⟩, -⟩ := hall image himage
    exact {
      columns := hcolumns
      people := fun child hchild => (hrow image himage child (List.mem_append_left _ hchild)).1
      objects := fun child hchild => (hrow image himage child (List.mem_append_right _ hchild)).1
      peopleDocument := fun name _ hload => listsNoPredictions_of_null hpeople name hload
      objectsDocument := fun name _ hload => listsNoPredictions_of_null hobjects name hload }
  · have hread := (hall image himage).2
    rw [hrow] at hread
    dsimp only at hread
    cases hresult : (Record.ofRow row).result with
    | ok record => exact ⟨record, rfl⟩
    | error fault =>
        rw [hresult] at hread
        cases hread

/-- Criteria that ask for people alone, with a threshold. -/
def peopleCriteria (tokens : List String) (threshold : Float) : Criteria :=
  facetCriteria .people tokens (some threshold)

theorem peopleCriteria_asks (hascii : ∀ token ∈ tokens, IsAscii token) :
    AsksDetections (peopleCriteria tokens threshold) := by
  refine ⟨⟨.list .people, rfl⟩, fun f hactive => Or.inl (facetCriteria_active hactive), ?_⟩
  rintro f asked hasked
  rw [(facetCriteria_tokens hasked).2]
  exact hascii

/-- Criteria about people are met by a child row of the people. -/
theorem matchesConfidently_people_iff :
    MatchesConfidently catalog (peopleCriteria tokens threshold) threshold image ↔
      ∃ child ∈ catalog.childrenOf .people image.id, ∃ token ∈ tokens,
        wildcardMatch token (some child.labelText) = true ∧
          reaches child.carriedConfidence (.float threshold) = true := by
  constructor
  · intro hmatches
    exact hmatches .people .people tokens rfl rfl
  · intro hmatch facet table asked htarget hasked
    obtain ⟨rfl, rfl⟩ := facetCriteria_tokens hasked
    obtain rfl := FacetTarget.child.inj htarget
    exact hmatch

/-- A catalog of images with people, of which nothing but names and confidences is known. -/
def ofPeople (images : List (String × List (Cell × Cell))) : Catalog :=
  images.foldl (fun catalog (path, people) => catalog.insert ⟨.text path, [], fun
    | .people => people.map fun (name, confidence) => (name, confidence, [])
    | _ => []⟩) .empty

/-- The record of an image is kept exactly when the image matches with confidence. -/
theorem keeps_iff_matchesConfidently (himage : catalog.KeepsDetections image)
    (hasks : AsksDetections c) (hthreshold : c.minConfidence = some threshold) {row : Row}
    {record : Record} (hrow : catalog.resultRow image = .ok row)
    (hread : (Record.ofRow row).result = .ok record) :
    (Task.mk c false folder).keeps record = true ↔
      MatchesConfidently catalog c threshold image := by
  have hdetection : ∀ facet, c.isActive facet = true → facet.isDetection = true := by
    intro facet hactive
    rcases hasks.only facet hactive with rfl | rfl <;> rfl
  obtain ⟨asked, hasked⟩ := hasks.asks
  obtain ⟨f, hf, hfasked⟩ : ∃ f ∈ detectionFacets, (c.tokens f).isSome = true := by
    rcases hasks.only asked hasked with rfl | rfl
    · exact ⟨.people, by decide, hasked⟩
    · exact ⟨.objects, by decide, hasked⟩
  rw [Task.keeps_eq_true_iff hthreshold hdetection hf hfasked]
  constructor
  · intro hmatches facet table tokens htarget htokens
    have hfacet := hasks.answered htarget htokens
    have hdetected : facet ∈ detectionFacets := by
      rcases hfacet with ⟨rfl, -⟩ | ⟨rfl, -⟩ <;> decide
    obtain ⟨token, htoken, label, hlabel, hmatch⟩ := hmatches facet hdetected tokens htokens
    obtain ⟨child, hchild, rfl, hreaches⟩ := (himage.mem_detected hrow hread hfacet).mp hlabel
    exact ⟨child, hchild, token, htoken, hmatch, hreaches⟩
  · intro hmatches facet _ tokens htokens
    have hactive : c.isActive (.list facet) = true := by
      rw [Criteria.isActive, htokens]
      rfl
    obtain ⟨_, table, hsame, htarget⟩ := hasks.asksChildTables _ hactive
    obtain rfl := Facet.list.inj hsame
    obtain ⟨child, hchild, token, htoken, hmatch, hreaches⟩ :=
      hmatches facet table tokens htarget htokens
    refine ⟨token, htoken, child.labelText, ?_, hmatch⟩
    exact (himage.mem_detected hrow hread (hasks.answered htarget htokens)).mpr
      ⟨child, hchild, rfl, hreaches⟩

/-- A search for detections with a threshold succeeds, and finds exactly the images that match with
confidence, each of them once. -/
theorem search_finds_confident_detections (hcatalog : HasDetections catalog)
    (hplain : ∀ image ∈ catalog.images, isEmbedded image.pathName = false)
    (hasks : AsksDetections c) (hthreshold : c.minConfidence = some threshold)
    (hfits : HasFittingPatterns c)
    (haccepts : ∀ statement, compile c = .ok statement → catalog.refusal? statement = none) :
    Succeeds folder catalog c ∧ (foundPaths folder catalog c).Nodup ∧
      ∀ path, path ∈ foundPaths folder catalog c ↔
        ∃ image ∈ catalog.images, image.pathName = path ∧
          MatchesConfidently catalog c threshold image := by
  have hlabels : ∀ image ∈ catalog.images, HasLabels catalog c image := by
    intro image himage facet table tokens htarget htokens child hchild
    have hchild := (hcatalog.row hasks himage htarget htokens hchild).1
    exact ⟨child.labelText, hchild.labelText_ne.1⟩
  have hread : ∀ image ∈ catalog.images, ∃ row record, catalog.resultRow image = .ok row ∧
      (Record.ofRow row).result = .ok record := by
    intro image himage
    have hkeeps := hcatalog.keeps image himage
    obtain ⟨row, hrow⟩ : ∃ row, catalog.resultRow image = .ok row :=
      exists_resultRow (fun child hchild => (hkeeps.people child hchild).isCarried)
        fun child hchild => (hkeeps.objects child hchild).isCarried
    obtain ⟨record, hrecord⟩ := hcatalog.readable image himage row hrow
    exact ⟨row, record, hrow, hrecord⟩
  obtain ⟨hsucceeds, hnodup, hfound⟩ :=
    search_of_child_tables hasks.asksChildTables hlabels hfits haccepts hplain hread
  refine ⟨hsucceeds, hnodup, fun path => (hfound path).trans ?_⟩
  refine exists_congr fun image => and_congr_right fun himage => and_congr_right fun _ => ?_
  have hkeeps := hcatalog.keeps image himage
  constructor
  · rintro ⟨-, row, record, hrow, hread, hkept⟩
    exact (keeps_iff_matchesConfidently hkeeps hasks hthreshold hrow hread).mp hkept
  · intro hmatches
    refine ⟨fun facet table tokens htarget htokens => ?_, ?_⟩
    · -- What matches with confidence is selected by the query in the first place.
      obtain ⟨child, hchild, token, htoken, hmatch, -⟩ :=
        hmatches facet table tokens htarget htokens
      obtain ⟨hdetection, hascii, hnulFree⟩ := hcatalog.row hasks himage htarget htokens hchild
      exact holds_childCondition (answers_asked (hlabels image himage) hfits htarget htokens) hchild
        hdetection.labelText_ne.1 htoken (hfits facet tokens htokens token htoken)
        (hasks.ascii facet tokens htokens token htoken) hascii hnulFree hmatch
    · obtain ⟨row, record, hrow, hrecord⟩ := hread image himage
      exact ⟨row, record, hrow, hrecord,
        (keeps_iff_matchesConfidently hkeeps hasks hthreshold hrow hrecord).mpr hmatches⟩

def familyCatalog : Catalog :=
  ofPeople [("a.jpg", [(.text "Bob", .null), (.text "Ann", .real 0.75)]),
    ("b.jpg", [(.text "Ann", .null)])]

def familyCriteria : Criteria := peopleCriteria ["an*"] 0.5

theorem search_finds_confident_detections_family :
    HasDetections familyCatalog ∧ AsksDetections familyCriteria ∧
      HasFittingPatterns familyCriteria ∧ Succeeds ⟨[]⟩ familyCatalog familyCriteria ∧
      "a.jpg" ∈ foundPaths ⟨[]⟩ familyCatalog familyCriteria ∧
      "b.jpg" ∉ foundPaths ⟨[]⟩ familyCatalog familyCriteria := by
  have hcatalog : HasDetections familyCatalog := hasDetections_of_shows (by decide +kernel)
  have hasks : AsksDetections familyCriteria := peopleCriteria_asks (by decide +kernel)
  have hfits : HasFittingPatterns familyCriteria := by
    intro facet asked hasked token htoken
    rw [(facetCriteria_tokens hasked).2] at htoken
    obtain rfl := List.mem_singleton.mp htoken
    exact fun _ => by decide +kernel
  obtain ⟨hsucceeds, -, hfound⟩ := @search_finds_confident_detections ⟨[]⟩ familyCatalog
    familyCriteria 0.5 hcatalog (by decide +kernel) hasks rfl hfits (accepts_singleton rfl rfl)
  refine ⟨hcatalog, hasks, hfits, hsucceeds, ?_, ?_⟩
  · rw [hfound]
    simp only [familyCriteria, matchesConfidently_people_iff]
    decide +kernel
  · rw [hfound]
    simp only [familyCriteria, matchesConfidently_people_iff]
    decide +kernel

/-- One image with one person on it. -/
def portraitCatalog : Catalog := ofPeople [("a.jpg", [(.text "ann", .null)])]

theorem portraitCatalog_plain : portraitCatalog.HasPlainPaths := by
  refine ⟨⟨?_, by decide +kernel⟩, by decide +kernel⟩
  simp [portraitCatalog, ofPeople, Catalog.insert, Catalog.empty, Cell.stored, Cell.numberText]

/-- A path that looks like an embedded image makes the search compare images; a pattern can be too
long for the catalog, and a query can have too many tokens. -/
theorem odd_searches_miss_detections :
    (¬ ∀ folder catalog c threshold, HasOwnPaths catalog → HasDetections catalog →
      AsksDetections c → c.minConfidence = some threshold → 0.0 ≤ threshold → threshold ≤ 1.0 →
      HasFittingPatterns c →
      (∀ statement, compile c = .ok statement → catalog.refusal? statement = none) →
      ∀ path, path ∈ foundPaths folder catalog c ↔ ∃ image ∈ catalog.images,
        image.pathName = path ∧ MatchesConfidently catalog c threshold image) ∧
    (¬ ∀ folder catalog c threshold, catalog.HasPlainPaths → HasDetections catalog →
      AsksDetections c → c.minConfidence = some threshold → 0.0 ≤ threshold → threshold ≤ 1.0 →
      (∀ statement, compile c = .ok statement → catalog.refusal? statement = none) →
      Succeeds folder catalog c) ∧
    ¬ ∀ folder catalog c threshold, catalog.HasPlainPaths → HasDetections catalog →
      AsksDetections c → c.minConfidence = some threshold → 0.0 ≤ threshold → threshold ≤ 1.0 →
      HasFittingPatterns c → catalog.missing = [] → Succeeds folder catalog c := by
  have hann : ∀ n, ∀ token ∈ List.replicate n "ann", token = "ann" := fun n token htoken =>
    List.eq_of_mem_replicate htoken
  have hfits : ∀ n, HasFittingPatterns (peopleCriteria (List.replicate n "ann") 0.0) := fun n =>
    facetCriteria_fits fun token htoken => hann n token htoken ▸ by decide
  have hasks : ∀ n, AsksDetections (peopleCriteria (List.replicate n "ann") 0.0) := fun n =>
    peopleCriteria_asks fun token htoken => hann n token htoken ▸ by decide +kernel
  have hportrait : HasDetections portraitCatalog := hasDetections_of_shows (by decide +kernel)
  refine ⟨fun hall => ?_, fun hall => ?_, fun hall => ?_⟩
  · let folder := Image.Folder.ofList [("x.jpg", [1]), ("y.jpg", [1])]
    let person : List (Cell × Cell) := [(.text "ann", .null)]
    let catalog := ofPeople [("data:a", person), ("x.jpg", person), ("y.jpg", person)]
    have hpaths : HasOwnPaths catalog := by
      simp [catalog, person, HasOwnPaths, ofPeople, Catalog.insert, Catalog.empty, Cell.stored,
        Cell.numberText]
    have hfound := hall folder catalog _ 0.0 hpaths (hasDetections_of_shows (by decide +kernel))
      (hasks 1) rfl (by decide +kernel) (by decide +kernel) (hfits 1) (accepts_singleton rfl rfl)
      "y.jpg"
    simp only [List.replicate, matchesConfidently_people_iff] at hfound
    revert hfound
    decide +kernel
  · have hask : AsksDetections (peopleCriteria [longToken] 0.0) := by
      refine peopleCriteria_asks fun token htoken c hc => ?_
      rw [List.mem_singleton.mp htoken] at hc
      rw [longToken_chars c hc]
      decide
    obtain ⟨image, himage, hsome⟩ : ∃ image ∈ portraitCatalog.images,
        (portraitCatalog.childrenOf .people image.id).isEmpty = false := by
      decide +kernel
    refine not_succeeds_of_longPattern rfl longToken_hasWildcards longToken_tooLong himage
      (List.isEmpty_eq_false_iff.mp hsome) (fun child hchild => ?_)
      (hall ⟨[]⟩ _ _ 0.0 portraitCatalog_plain hportrait hask rfl (by decide +kernel)
        (by decide +kernel) (accepts_singleton rfl rfl))
    exact ⟨_, ((hportrait.keeps image himage).people child hchild).labelText_ne.1⟩
  · refine not_succeeds_of_tooDeep rfl rfl (by decide +kernel)
      (hall ⟨[]⟩ _ _ 0.0 portraitCatalog_plain hportrait (hasks 497) rfl (by decide +kernel)
        (by decide +kernel) (hfits 497) rfl)

end PhotoCatalog.Search
