import PhotoCatalog.Proofs.Record.Detections
import PhotoCatalog.Proofs.Search.Kept
import PhotoCatalog.Proofs.Search.OneTable

/-!
Searches for scenes.  An image may have any number of scene rows, which are what the query looks at,
while its record has a single scene, from the columns of the image itself.  A threshold keeps the
images whose own scene is asked for, and drops those that only another one of their rows was found
by.
-/

namespace PhotoCatalog.Search

open PhotoCatalog.Catalog PhotoCatalog.Number PhotoCatalog.Pattern PhotoCatalog.Query
  PhotoCatalog.Text

/-- Scene rows: a label in ASCII that names a scene, and a confidence between zero and one. -/
structure IsScene (row : ChildRow) : Prop where
  label : row.label = .text row.labelText
  named : row.labelText ≠ "" ∧ row.labelText ≠ "unknown"
  ascii : IsAscii row.labelText ∧ IsNulFree row.labelText
  confidence : ∃ x, row.confidence = .real x ∧ 0.0 ≤ x ∧ x ≤ 1.0

/-- The columns of an image tell the same as a scene row. -/
structure Repeats (image : ImageRow) (child : ChildRow) : Prop where
  label : image.cell "scene_label" = child.label
  confidence : image.cell "scene_confidence" = child.confidence

/-- Catalogs whose images have records, and where the columns of an image with scene rows repeat one
of them, without a document about the scene. -/
structure HasScenes (catalog : Catalog) : Prop where
  readable : ∀ image ∈ catalog.images, ∃ row record, catalog.resultRow image = .ok row ∧
    (Record.ofRow row).result = .ok record
  undocumented : ∀ image ∈ catalog.images, (image.cell "scenes_json").isNull = true
  scenes : ∀ image ∈ catalog.images, ∀ child ∈ catalog.childrenOf .scenes image.id, IsScene child
  leading : ∀ image ∈ catalog.images, catalog.childrenOf .scenes image.id ≠ [] →
    ∃ child ∈ catalog.childrenOf .scenes image.id, Repeats image child

/-- Criteria that ask for scenes and for nothing else, with tokens in ASCII. -/
structure AsksScenes (c : Criteria) (tokens : List String) : Prop where
  asks : c.tokens .scenes = some tokens
  only : ∀ facet, c.isActive facet = true → facet = .list .scenes
  ascii : ∀ token ∈ tokens, IsAscii token

/-- One of the tokens matches a scene row of the image. -/
def MatchesScene (catalog : Catalog) (tokens : List String) (image : ImageRow) : Prop :=
  ∃ child ∈ catalog.childrenOf .scenes image.id, ∃ token ∈ tokens,
    wildcardMatch token (some child.labelText) = true

/-- One of the tokens matches the scene row that the columns of the image repeat, and its confidence
does not fall short of the threshold. -/
def LeadsWith (catalog : Catalog) (tokens : List String) (threshold : Float) (image : ImageRow) :
    Prop :=
  ∃ child ∈ catalog.childrenOf .scenes image.id, Repeats image child ∧
    (∃ token ∈ tokens, wildcardMatch token (some child.labelText) = true) ∧
      ∃ x, child.confidence = .real x ∧ fallsShort x (.float threshold) = false

variable {folder : Image.Folder} {catalog : Catalog} {c : Criteria} {threshold : Float}
  {image : ImageRow} {tokens : List String} {row : Row} {record : Record}

theorem AsksScenes.tokens_eq (hasks : AsksScenes c tokens) {facet : ListFacet}
    {asked : List String} (hasked : c.tokens facet = some asked) :
    facet = .scenes ∧ asked = tokens := by
  have hactive : c.isActive (.list facet) = true := by
    rw [Criteria.isActive, hasked]
    rfl
  obtain rfl := Facet.list.inj (hasks.only _ hactive)
  exact ⟨rfl, Option.some.inj (hasked.symm.trans hasks.asks)⟩

/-- What holds of every child table that is asked holds of the scenes. -/
theorem AsksScenes.forall_asked_iff (hasks : AsksScenes c tokens)
    {p : ChildTable → List String → Prop} :
    (∀ facet table asked, facet.target = .child table → c.tokens facet = some asked →
      p table asked) ↔ p .scenes tokens := by
  constructor
  · intro hall
    exact hall .scenes .scenes tokens rfl hasks.asks
  · intro hscenes facet table asked htarget hasked
    obtain ⟨rfl, rfl⟩ := hasks.tokens_eq hasked
    obtain rfl := FacetTarget.child.inj htarget
    exact hscenes

theorem AsksScenes.asksChildTables (hasks : AsksScenes c tokens) : AsksChildTables c := by
  intro facet hactive
  obtain rfl := hasks.only facet hactive
  exact ⟨.scenes, .scenes, rfl, rfl⟩

/-- Without a document, the scene of a record comes from the columns of its image. -/
theorem scene_of_columns {label : String} {x : Float} (hrow : catalog.resultRow image = .ok row)
    (hread : (Record.ofRow row).result = .ok record)
    (hdocument : (image.cell "scenes_json").isNull = true)
    (hlabel : image.cell "scene_label" = .text label)
    (hconfidence : image.cell "scene_confidence" = .real x) :
    record.scene = ⟨label, x, percentageOf x, label != "unknown"⟩ := by
  obtain ⟨f, hmake⟩ := Record.ofRow_eq_ok_iff.mp hread
  have hscenes : (loadDocument "" (row.get "scenes_json")).result = .ok f.scene :=
    hmake.loads ("scenes_json", f.scene) (by simp [Findings.documents]) ""
  have hnone : image.cell "scenes_json" = .null := by
    cases hcell : image.cell "scenes_json" with
    | null => rfl
    | _ =>
        rw [hcell] at hdocument
        cases hdocument
  rw [resultRow_get hrow (by decide) (by decide), hnone] at hscenes
  have hnull : Value.null = f.scene := Except.ok.inj hscenes
  have hscene := hmake.scene
  rw [← hnull] at hscene
  have hlabelRow : row.get "scene_label" = .text label := by
    rw [resultRow_get hrow (by decide) (by decide), hlabel]
    rfl
  have hconfidenceRow : row.get "scene_confidence" = .float x := by
    rw [resultRow_get hrow (by decide) (by decide), hconfidence]
    rfl
  have hread : (Scene.read .null row).result =
      .ok ⟨label, x, percentageOf x, label != "unknown"⟩ := by
    rw [Scene.read, merged, merged, hlabelRow, hconfidenceRow]
    rfl
  exact Except.ok.inj (hscene.symm.trans hread)

/-- What is left of a scene that columns tell of, once the threshold has been applied. -/
theorem mem_detected_scenes (hcatalog : HasScenes catalog) (himage : image ∈ catalog.images)
    (hrow : catalog.resultRow image = .ok row) (hread : (Record.ofRow row).result = .ok record)
    {child : ChildRow} (hchild : child ∈ catalog.childrenOf .scenes image.id)
    (hrepeats : Repeats image child) {label : String} :
    label ∈ (record.restrict (some (.float threshold))).detected .scenes ↔
      child.labelText = label ∧
        ∃ x, child.confidence = .real x ∧ fallsShort x (.float threshold) = false := by
  have hscene := hcatalog.scenes image himage child hchild
  obtain ⟨x, hx, -⟩ := hscene.confidence
  have hown := scene_of_columns hrow hread (hcatalog.undocumented image himage)
    (hrepeats.label.trans hscene.label) (hrepeats.confidence.trans hx)
  have hknown : (child.labelText != "unknown") = true := bne_iff_ne.mpr hscene.named.2
  have hleft : (record.restrict (some (.float threshold))).scene =
      if fallsShort x (.float threshold) then .unknown
      else ⟨child.labelText, x, percentageOf x, true⟩ := by
    change record.scene.restrict (.float threshold) = _
    rw [hown, hknown]
    rfl
  have hreal : (∃ y, child.confidence = .real y ∧ fallsShort y (.float threshold) = false) ↔
      fallsShort x (.float threshold) = false := by
    simp only [hx, Cell.real.injEq, exists_eq_left']
  rw [Record.detected, hleft, hreal]
  cases hshort : fallsShort x (.float threshold) with
  | true => simp [Scene.unknown]
  | false => simp [eq_comm]

/-- The record of an image that is selected is kept exactly when its own scene is asked for and does
not fall short. -/
theorem keeps_iff_leadsWith (hcatalog : HasScenes catalog) (hasks : AsksScenes c tokens)
    (hthreshold : c.minConfidence = some threshold) (himage : image ∈ catalog.images)
    (hrow : catalog.resultRow image = .ok row) (hread : (Record.ofRow row).result = .ok record)
    (hsome : catalog.childrenOf .scenes image.id ≠ []) :
    (Task.mk c false folder).keeps record = true ↔ LeadsWith catalog tokens threshold image := by
  have honly : ∀ facet, c.isActive facet = true → facet.isDetection = true := by
    intro facet hactive
    rw [hasks.only facet hactive]
    rfl
  obtain ⟨child, hchild, hrepeats⟩ := hcatalog.leading image himage hsome
  rw [Task.keeps_eq_true_iff hthreshold honly (by decide : ListFacet.scenes ∈ detectionFacets)
    (by rw [hasks.asks]; rfl)]
  constructor
  · intro hmatches
    obtain ⟨token, htoken, label, hlabel, hmatch⟩ :=
      hmatches .scenes (by decide) tokens hasks.asks
    obtain ⟨rfl, hconfidence⟩ :=
      (mem_detected_scenes hcatalog himage hrow hread hchild hrepeats).mp hlabel
    exact ⟨child, hchild, hrepeats, ⟨token, htoken, hmatch⟩, hconfidence⟩
  · rintro ⟨child, hchild, hrepeats, ⟨token, htoken, hmatch⟩, hconfidence⟩ facet - asked hasked
    obtain ⟨rfl, rfl⟩ := hasks.tokens_eq hasked
    refine ⟨token, htoken, child.labelText, ?_, hmatch⟩
    exact (mem_detected_scenes hcatalog himage hrow hread hchild hrepeats).mpr ⟨rfl, hconfidence⟩

theorem LeadsWith.matchesScene (hleads : LeadsWith catalog tokens threshold image) :
    MatchesScene catalog tokens image := by
  obtain ⟨child, hchild, -, ⟨token, htoken, hmatch⟩, -⟩ := hleads
  exact ⟨child, hchild, token, htoken, hmatch⟩

theorem HasScenes.hasLabels (hcatalog : HasScenes catalog) (hasks : AsksScenes c tokens)
    (himage : image ∈ catalog.images) : HasLabels catalog c image := by
  intro facet table asked htarget hasked child hchild
  obtain ⟨rfl, -⟩ := hasks.tokens_eq hasked
  obtain rfl := FacetTarget.child.inj htarget
  exact ⟨_, (hcatalog.scenes image himage child hchild).label⟩

/-- An image one of whose scene rows matches is selected by the query. -/
theorem holds_of_matchesScene (hcatalog : HasScenes catalog) (hasks : AsksScenes c tokens)
    (hfits : HasFittingPatterns c) (himage : image ∈ catalog.images)
    (hmatches : MatchesScene catalog tokens image) :
    (catalog.subject image).Holds (childCondition .scenes tokens false) := by
  obtain ⟨child, hchild, token, htoken, hmatch⟩ := hmatches
  have hscene := hcatalog.scenes image himage child hchild
  exact holds_childCondition (answers_asked (hcatalog.hasLabels hasks himage) hfits rfl hasks.asks)
    hchild hscene.label htoken (hfits .scenes tokens hasks.asks token htoken)
    (hasks.ascii token htoken) hscene.ascii.1 hscene.ascii.2 hmatch

/-- A search for scenes succeeds.  Without a threshold it finds every image with a scene row that
matches; with one it finds exactly the images whose own scene matches and does not fall short, each
of them once. -/
theorem search_finds_leading_scenes (hcatalog : HasScenes catalog)
    (hplain : ∀ image ∈ catalog.images, isEmbedded image.pathName = false)
    (hasks : AsksScenes c tokens) (hfits : HasFittingPatterns c)
    (haccepts : ∀ statement, compile c = .ok statement → catalog.refusal? statement = none) :
    Succeeds folder catalog c ∧ (foundPaths folder catalog c).Nodup ∧
      (c.minConfidence = none → ∀ image ∈ catalog.images, MatchesScene catalog tokens image →
        image.pathName ∈ foundPaths folder catalog c) ∧
      ∀ threshold, c.minConfidence = some threshold → ∀ path,
        path ∈ foundPaths folder catalog c ↔
          ∃ image ∈ catalog.images, image.pathName = path ∧
            LeadsWith catalog tokens threshold image := by
  have hlabels : ∀ image ∈ catalog.images, HasLabels catalog c image := fun image himage =>
    hcatalog.hasLabels hasks himage
  obtain ⟨hsucceeds, hnodup, hfound⟩ :=
    @search_of_child_tables folder _ _ hasks.asksChildTables hlabels hfits haccepts hplain
      hcatalog.readable
  simp only [hasks.forall_asked_iff] at hfound
  refine ⟨hsucceeds, hnodup, fun hnone image himage hmatches => ?_, fun threshold hthreshold path =>
    (hfound path).trans ?_⟩
  · obtain ⟨row, record, hrow, hread⟩ := hcatalog.readable image himage
    refine (hfound _).mpr ⟨image, himage, rfl,
      holds_of_matchesScene hcatalog hasks hfits himage hmatches, row, record, hrow, hread, ?_⟩
    simp [Task.keeps, Record.isKept, hnone]
  · refine exists_congr fun image => and_congr_right fun himage => and_congr_right fun _ => ?_
    constructor
    · rintro ⟨hholds, row, record, hrow, hread, hkept⟩
      have hsome : catalog.childrenOf .scenes image.id ≠ [] := by
        intro hnone
        obtain ⟨child, hchild, -⟩ := (Subject.existsIn_eq_true_iff hholds).mp rfl
        obtain ⟨row, hrow, -⟩ := List.mem_map.mp hchild
        exact List.not_mem_nil (hnone ▸ hrow)
      exact (keeps_iff_leadsWith hcatalog hasks hthreshold himage hrow hread hsome).mp hkept
    · intro hleads
      obtain ⟨child, hchild, -⟩ := hleads.matchesScene
      obtain ⟨row, record, hrow, hread⟩ := hcatalog.readable image himage
      refine ⟨holds_of_matchesScene hcatalog hasks hfits himage hleads.matchesScene, row, record,
        hrow, hread, ?_⟩
      exact (keeps_iff_leadsWith hcatalog hasks hthreshold himage hrow hread
        (List.ne_nil_of_mem hchild)).mpr hleads

/-- An image with two scene rows, whose own scene is the second one. -/
def shoreCatalog : Catalog :=
  Catalog.empty.insert ⟨.text "a.jpg",
    [("scene_label", .text "beach"), ("scene_confidence", .real 0.9)], fun
    | .scenes => [(.text "forest", .real 0.8, []), (.text "beach", .real 0.9, [])]
    | _ => []⟩

theorem shoreCatalog_hasScenes : HasScenes shoreCatalog := by
  have hrows : shoreCatalog.childrenOf .scenes 1 =
      [⟨1, .text "forest", .real 0.8, []⟩, ⟨1, .text "beach", .real 0.9, []⟩] := rfl
  have hread : ∀ image ∈ shoreCatalog.images, (shoreCatalog.resultRow image >>= fun row =>
      (Record.ofRow row).result).isOk = true := by
    decide +kernel
  refine ⟨?_, by decide +kernel, ?_, ?_⟩
  · intro image himage
    have hread := hread image himage
    cases hresult : shoreCatalog.resultRow image >>= fun row => (Record.ofRow row).result with
    | error fault =>
        rw [hresult] at hread
        cases hread
    | ok record =>
        obtain ⟨row, hrow, hrecord⟩ := bind_eq_ok.mp hresult
        exact ⟨row, record, hrow, hrecord⟩
  · intro image himage
    obtain rfl := List.mem_singleton.mp himage
    change ∀ child ∈ shoreCatalog.childrenOf .scenes 1, IsScene child
    rw [hrows, List.forall_mem_cons, List.forall_mem_singleton]
    constructor
    · exact ⟨rfl, by decide, by decide +kernel, 0.8, rfl, by decide +kernel, by decide +kernel⟩
    · exact ⟨rfl, by decide, by decide +kernel, 0.9, rfl, by decide +kernel, by decide +kernel⟩
  · intro image himage _
    obtain rfl := List.mem_singleton.mp himage
    refine ⟨⟨1, .text "beach", .real 0.9, []⟩, ?_, ⟨rfl, rfl⟩⟩
    change _ ∈ shoreCatalog.childrenOf .scenes 1
    rw [hrows]
    exact List.mem_cons_of_mem _ List.mem_cons_self

theorem facetCriteria_asksScenes (hascii : ∀ token ∈ tokens, IsAscii token)
    (threshold : Option Float) : AsksScenes (facetCriteria .scenes tokens threshold) tokens :=
  ⟨facetCriteria_asked .scenes tokens threshold, fun _ hactive => facetCriteria_active hactive,
    hascii⟩

theorem search_finds_leading_scenes_shore :
    let c := facetCriteria .scenes ["Beach"] (some 0.5)
    HasScenes shoreCatalog ∧ AsksScenes c ["Beach"] ∧ Succeeds ⟨[]⟩ shoreCatalog c ∧
      "a.jpg" ∈ foundPaths ⟨[]⟩ shoreCatalog c := by
  intro c
  have hasks : AsksScenes c ["Beach"] := facetCriteria_asksScenes (by decide +kernel) _
  obtain ⟨hsucceeds, -, -, hfound⟩ := @search_finds_leading_scenes ⟨[]⟩ shoreCatalog c ["Beach"]
    shoreCatalog_hasScenes (by decide +kernel) hasks (facetCriteria_fits (by decide))
    (accepts_singleton rfl rfl)
  refine ⟨shoreCatalog_hasScenes, hasks, hsucceeds, (hfound 0.5 rfl "a.jpg").mpr ?_⟩
  refine ⟨_, List.mem_singleton.mpr rfl, rfl, ⟨1, .text "beach", .real 0.9, []⟩, ?_, ⟨rfl, rfl⟩,
    ⟨"Beach", List.mem_singleton.mpr rfl, by decide +kernel⟩, 0.9, rfl, by decide +kernel⟩
  exact List.mem_cons_of_mem _ List.mem_cons_self

/-- A threshold of zero drops an image that one of its scene rows was found by, whatever the
confidence of that row is. -/
theorem threshold_drops_other_scenes :
    (¬ ∀ folder catalog c tokens threshold, catalog.HasPlainPaths → HasScenes catalog →
      AsksScenes c tokens → HasFittingPatterns c → c.minConfidence = some threshold →
      0.0 ≤ threshold → threshold ≤ 1.0 →
      (∀ statement, compile c = .ok statement → catalog.refusal? statement = none) →
      ∀ image ∈ catalog.images,
        (∃ child ∈ catalog.childrenOf .scenes image.id, ∃ token ∈ tokens,
          wildcardMatch token (some child.labelText) = true ∧
            ∃ x, child.confidence = .real x ∧ reaches x (.float threshold) = true) →
        image.pathName ∈ foundPaths folder catalog c) ∧
    ¬ ∀ folder catalog tokens, catalog.HasPlainPaths → HasScenes catalog →
      (∀ token ∈ tokens, IsAscii token) →
      ∀ path ∈ foundPaths folder catalog (facetCriteria .scenes tokens none),
        path ∈ foundPaths folder catalog (facetCriteria .scenes tokens (some 0.0)) := by
  have hplain : shoreCatalog.HasPlainPaths := by
    refine ⟨⟨?_, by decide +kernel⟩, by decide +kernel⟩
    simp [shoreCatalog, Catalog.insert, Catalog.empty, Cell.stored, Cell.numberText]
  have hdropped : "a.jpg" ∉
      foundPaths ⟨[]⟩ shoreCatalog (facetCriteria .scenes ["forest"] (some 0.0)) := by
    decide +kernel
  constructor
  · intro hall
    refine hdropped (hall _ _ _ ["forest"] _ hplain shoreCatalog_hasScenes
      (facetCriteria_asksScenes (by decide +kernel) _) (facetCriteria_fits (by decide)) rfl
      (by decide +kernel) (by decide +kernel) (accepts_singleton rfl rfl) _
      (List.mem_singleton.mpr rfl) ?_)
    exact ⟨⟨1, .text "forest", .real 0.8, []⟩, List.mem_cons_self, "forest",
      List.mem_singleton.mpr rfl, by decide +kernel, 0.8, rfl, by decide +kernel⟩
  · intro hall
    refine hdropped (hall _ _ _ hplain shoreCatalog_hasScenes (by decide +kernel) "a.jpg" ?_)
    decide +kernel

end PhotoCatalog.Search
