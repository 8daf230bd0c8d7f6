import PhotoCatalog.Proofs.Catalog.ResultRow
import PhotoCatalog.Proofs.Record.Findings
import PhotoCatalog.Record.Threshold

/-!
Detections from child rows.  Where the documents of an image list no predictions of their own, its
record has one detection for each child row, with the label of the row and with the confidence that
the row arrives with.
-/

namespace PhotoCatalog

open PhotoCatalog.Catalog PhotoCatalog.Number PhotoCatalog.Text

/-- Child rows that tell of something detected: a label, a finite confidence or none, and whole
numbers for the corners, as far as there are any. -/
structure Catalog.ChildRow.IsDetection (row : ChildRow) : Prop where
  label : ∃ s, row.label = .text s ∧ s ≠ ""
  confidence : row.confidence = .null ∨ ∃ x, row.confidence = .real x ∧ isFinite x = true
  corners : ∀ cell ∈ row.corners, cell = .null ∨ ∃ n, cell = .int n ∧ fits n = true

/-- The label of a child row. -/
def Catalog.ChildRow.labelText (row : ChildRow) : String :=
  match row.label with
  | .text s => s
  | _ => ""

/-- The confidence that a child row arrives with; a missing one counts as zero. -/
def Catalog.ChildRow.carriedConfidence (row : ChildRow) : Float :=
  match row.confidence.carried with
  | .float x => x
  | _ => 0.0

/-- A detection tells of a child row. -/
structure Detection.TellsOf (d : Detection) (row : ChildRow) : Prop where
  label : d.label = some row.labelText
  confidence : d.confidence = row.carriedConfidence

variable {table : ChildTable} {child : ChildRow}

theorem Catalog.ChildRow.IsDetection.isCarried (hchild : child.IsDetection) : child.IsCarried := by
  obtain ⟨s, hlabel, -⟩ := hchild.label
  refine ⟨hlabel ▸ .text s, ?_, ?_⟩
  · rcases hchild.confidence with hnull | ⟨x, hreal, hfinite⟩
    · exact hnull ▸ .null
    · exact hreal ▸ .real hfinite
  · intro cell hcell
    rcases hchild.corners cell hcell with rfl | ⟨n, rfl, hfits⟩
    · exact .null
    · exact .int hfits

theorem Catalog.ChildRow.IsDetection.labelText_ne (hchild : child.IsDetection) :
    child.label = .text child.labelText ∧ child.labelText ≠ "" := by
  obtain ⟨s, hlabel, hne⟩ := hchild.label
  rw [ChildRow.labelText, hlabel]
  exact ⟨rfl, hne⟩

/-- A corner of a child row. -/
def Catalog.ChildRow.corner (child : ChildRow) (i : Nat) : Cell := (child.corners[i]?).getD .null

theorem carried_eq_map (table : ChildTable) (child : ChildRow) :
    child.carried table = .map [(table.matchColumn, child.label.carried),
      ("confidence", child.confidence.carried), ("x_min", (child.corner 0).carried),
      ("y_min", (child.corner 1).carried), ("x_max", (child.corner 2).carried),
      ("y_max", (child.corner 3).carried)] := rfl

/-- The keys of child rows, and those that readers look for, up to case. -/
theorem lower_keys : lower "name" = "name" ∧ lower "label" = "label" ∧
    lower "keyword" = "keyword" ∧ lower "confidence" = "confidence" ∧ lower "x_min" = "x_min" ∧
    lower "y_min" = "y_min" ∧ lower "x_max" = "x_max" ∧ lower "y_max" = "y_max" ∧
    lower "Confidence" = "confidence" ∧ lower "UserId" = "userid" ∧ lower "Label" = "label" ∧
    lower "BBox" = "bbox" := by
  decide +kernel

theorem carried_entry_confidence (table : ChildTable) (child : ChildRow) :
    (child.carried table).entry "Confidence" = child.confidence.carried := by
  cases table <;>
    simp [Value.entry, carried_eq_map, ChildTable.matchColumn, List.lookup, lower_keys]

theorem carried_entry_box (table : ChildTable) (child : ChildRow) :
    (child.carried table).entry "BBox" = .null := by
  cases table <;>
    simp [Value.entry, carried_eq_map, ChildTable.matchColumn, List.lookup, lower_keys]

theorem carried_entry_user (child : ChildRow) :
    (child.carried .people).entry faceKey = .null := by
  simp [faceKey, Value.entry, carried_eq_map, ChildTable.matchColumn, List.lookup, lower_keys]

theorem carried_entry_name (child : ChildRow) :
    (child.carried .people).entry "name" = child.label.carried := rfl

theorem carried_entry_label (child : ChildRow) :
    (child.carried .objects).entry objectKey = child.label.carried := by
  simp [objectKey, Value.entry, carried_eq_map, ChildTable.matchColumn, List.lookup, lower_keys]

theorem carried_entry_corners (table : ChildTable) (child : ChildRow) :
    ["x_min", "y_min", "x_max", "y_max"].map (child.carried table).entry =
      [0, 1, 2, 3].map fun i => (child.corner i).carried := by
  cases table <;> rfl

/-- A box whose corners are whole numbers, or missing, is read. -/
theorem readBox_of_whole {item : Value}
    (hcorners : ∀ v ∈ cornersOf item, v = .null ∨ ∃ n, v = .int n) :
    ∃ box, (readBox item).result = .ok box := by
  rw [readBox]
  by_cases hnull : (cornersOf item).any Value.isNull = true
  · exact ⟨none, by rw [if_pos hnull]; rfl⟩
  · have hwhole : ∀ v ∈ cornersOf item, ∃ n, v.toInt = .ok n ∧ v = .int n := by
      intro v hv
      rcases hcorners v hv with rfl | ⟨n, rfl⟩
      · exact absurd (List.any_eq_true.mpr ⟨.null, hv, rfl⟩) hnull
      · exact ⟨n, rfl, rfl⟩
    obtain ⟨box, hbox, -⟩ := exists_mapM_ok hwhole
    rw [if_neg hnull, hbox]
    exact ⟨some box, rfl⟩

theorem Catalog.ChildRow.IsDetection.corner (hchild : child.IsDetection) (i : Nat) :
    (child.corner i).carried = .null ∨ ∃ n, (child.corner i).carried = .int n := by
  rw [ChildRow.corner]
  cases hget : child.corners[i]? with
  | none => exact Or.inl carried_null
  | some cell =>
      rcases hchild.corners cell (List.mem_of_getElem? hget) with rfl | ⟨n, rfl, hfits⟩
      · exact Or.inl carried_null
      · exact Or.inr ⟨n, carried_int hfits⟩

theorem Catalog.ChildRow.IsDetection.readBox (hchild : child.IsDetection) (table : ChildTable) :
    ∃ box, (readBox (child.carried table)).result = .ok box := by
  have hcorners : cornersOf (child.carried table) =
      [0, 1, 2, 3].map fun i => (child.corner i).carried := by
    rw [cornersOf, carried_entry_box, carried_entry_corners]
  apply readBox_of_whole
  intro v hv
  obtain ⟨i, -, rfl⟩ := List.mem_map.mp (hcorners ▸ hv)
  exact hchild.corner i

theorem Catalog.ChildRow.IsDetection.readConfidence (hchild : child.IsDetection)
    (place : String) : ∃ confidence,
      (usable Value.toFloat place child.confidence.carried).result = .ok confidence ∧
        confidence.getD 0.0 = child.carriedConfidence := by
  rw [ChildRow.carriedConfidence]
  rcases hchild.confidence with hnull | ⟨x, hreal, hfinite⟩
  · rw [hnull, carried_null]
    exact ⟨none, rfl, rfl⟩
  · obtain ⟨y, hy⟩ := carried_real hfinite
    rw [hreal, hy]
    exact ⟨some y, rfl, rfl⟩

/-- A child row is read as a detection that tells of it. -/
theorem Catalog.ChildRow.IsDetection.read (hchild : child.IsDetection) (table : ChildTable) :
    ∃ d, (Detection.read child.label.carried (child.carried table)).result = .ok d ∧
      d.TellsOf child := by
  obtain ⟨confidence, hconfidence, hvalue⟩ := hchild.readConfidence "Confidence"
  obtain ⟨box, hbox⟩ := hchild.readBox table
  have hlabel : child.label.carried = .text child.labelText := by
    rw [hchild.labelText_ne.1, carried_text]
  refine ⟨⟨confidence.getD 0.0, box, some child.labelText⟩, ?_, rfl, hvalue⟩
  rw [hlabel, Detection.read]
  refine Reading.bind_result_eq_ok.mpr ⟨confidence, ?_, ?_⟩
  · rw [carried_entry_confidence, hconfidence]
  · exact Reading.bind_result_eq_ok.mpr ⟨box, hbox, rfl⟩

theorem readFace_carried (child : ChildRow) : readFace (child.carried .people) =
    Detection.read child.label.carried (child.carried .people) := by
  rw [readFace, carried_entry_user, carried_entry_name]
  rfl

theorem readObject_carried (child : ChildRow) : readObject (child.carried .objects) =
    Detection.read child.label.carried (child.carried .objects) := by
  rw [readObject, carried_entry_label]

/-- Child rows are read as detections, one for each of them. -/
theorem readItems_carried {read : Value → Reading Detection} {rows : List ChildRow}
    (hread : ∀ child ∈ rows, ∃ d, (read (child.carried table)).result = .ok d ∧ d.TellsOf child) :
    ∃ detections, (readItems read (rows.map (·.carried table))).result = .ok detections ∧
      List.Forall₂ Detection.TellsOf detections rows := by
  induction rows with
  | nil => exact ⟨[], rfl, .nil⟩
  | cons child rows ih =>
      obtain ⟨⟨d, hd, htells⟩, hrest⟩ := List.forall_mem_cons.mp hread
      obtain ⟨detections, hdetections, hall⟩ := ih hrest
      refine ⟨d :: detections, ?_, .cons htells hall⟩
      rw [List.map_cons, readItems]
      refine Reading.bind_result_eq_ok.mpr ⟨d, hd, ?_⟩
      exact Reading.bind_result_eq_ok.mpr ⟨detections, hdetections, rfl⟩

variable {row : Row} {record : Record}

variable {document childRows : Value}

theorem People.read_detections {people : People}
    (hread : (People.read document row childRows).result = .ok people) :
    (readDetections readFace document childRows).result = .ok people.detections := by
  obtain ⟨detections, hdetections, hread⟩ := Reading.bind_result_eq_ok.mp hread
  have hsame : people.detections = detections := by
    dsimp only at hread
    split at hread
    all_goals
      simp only [Reading.bind_result_eq_ok, Reading.result_pure, Except.ok.injEq] at hread
      obtain ⟨_, -, _, -, _, -, rfl⟩ := hread
      rfl
  rw [hdetections, hsame]

theorem Objects.read_detections {objects : Objects}
    (hread : (Objects.read document row childRows).result = .ok objects) :
    (readDetections readObject document childRows).result = .ok objects.detections := by
  obtain ⟨detections, hdetections, hread⟩ := Reading.bind_result_eq_ok.mp hread
  obtain ⟨_, -, hread⟩ := Reading.bind_result_eq_ok.mp hread
  have hsame : objects.detections = detections := by
    split at hread
    all_goals
      simp only [Reading.bind_result_eq_ok, Reading.result_pure, Except.ok.injEq] at hread
      obtain ⟨_, -, rfl⟩ := hread
      rfl
  rw [hdetections, hsame]

/-- Documents that list no predictions. -/
def Value.ListsNoPredictions (document : Value) : Prop :=
  ∀ items, document.entry "Predictions" ≠ .list items

theorem readDetections_of_rows {read : Value → Reading Detection} {items : List Value}
    (hdocument : document.ListsNoPredictions) :
    readDetections read document (.list items) = readItems read items := by
  rw [readDetections.eq_def]
  cases hentry : document.entry "Predictions" with
  | list listed => exact absurd hentry (hdocument listed)
  | _ => rfl

theorem loadDocument_text {name text : String} {v : Value} (hblank : isBlankText text = false)
    (hread : Json.read text = .ok v) : (loadDocument name (.text text)).result = .ok v := by
  change (readDocument name text).result = _
  rw [readDocument, hblank, hread]
  rfl

/-- Images whose people and objects are told of by child rows alone. -/
structure Catalog.KeepsDetections (catalog : Catalog) (image : ImageRow) : Prop where
  columns : image.HasColumns
  people : ∀ child ∈ catalog.childrenOf .people image.id, child.IsDetection
  objects : ∀ child ∈ catalog.childrenOf .objects image.id, child.IsDetection
  peopleDocument : ∀ name document,
    (loadDocument name (image.cell "people_json").toValue).result = .ok document →
      document.ListsNoPredictions
  objectsDocument : ∀ name document,
    (loadDocument name (image.cell "objects_json").toValue).result = .ok document →
      document.ListsNoPredictions

variable {catalog : Catalog} {image : ImageRow}

/-- Child rows that are carried by a document are read from it as detections. -/
theorem detections_of_document {read : Value → Reading Detection} {text name : String}
    {detections : List Detection}
    (hrows : ∀ child ∈ catalog.childrenOf table image.id, child.IsDetection)
    (hsame : ∀ child : ChildRow, read (child.carried table) =
      Detection.read child.label.carried (child.carried table))
    (htext : catalog.rowsDocument table image.id = .ok text)
    (hchildRows : (loadDocument name (.text text)).result = .ok childRows)
    (hdocument : document.ListsNoPredictions)
    (hread : (readDetections read document childRows).result = .ok detections) :
    List.Forall₂ Detection.TellsOf detections (catalog.childrenOf table image.id) := by
  obtain ⟨text', htext', hblank, hjson⟩ := rowsDocument_read fun child hchild =>
    (hrows child hchild).isCarried
  obtain rfl : text' = text := Except.ok.inj (htext'.symm.trans htext)
  rw [loadDocument_text hblank hjson, Except.ok.injEq] at hchildRows
  have hall : ∀ child ∈ catalog.childrenOf table image.id,
      ∃ d, (read (child.carried table)).result = .ok d ∧ d.TellsOf child := by
    intro child hchild
    rw [hsame child]
    exact (hrows child hchild).read table
  obtain ⟨detections', hitems, htell⟩ := readItems_carried hall
  rw [← hchildRows, rowsCarried, readDetections_of_rows hdocument, hitems, Except.ok.injEq] at hread
  exact hread ▸ htell

/-- The record of an image has one detection for each child row. -/
theorem Catalog.KeepsDetections.detections (himage : catalog.KeepsDetections image)
    (hrow : catalog.resultRow image = .ok row) (hread : (Record.ofRow row).result = .ok record) :
    List.Forall₂ Detection.TellsOf record.people.detections
        (catalog.childrenOf .people image.id) ∧
      List.Forall₂ Detection.TellsOf record.objects.detections
        (catalog.childrenOf .objects image.id) := by
  obtain ⟨peopleText, objectText, hpeopleText, hobjectText, hpeopleRow, hobjectRow⟩ :=
    resultRow_documents himage.columns hrow
  obtain ⟨f, hmake⟩ := Record.ofRow_eq_ok_iff.mp hread
  have hloads := fun e he => hmake.loads e he ""
  simp only [Findings.documents, List.forall_mem_cons] at hloads
  obtain ⟨-, -, hpeople, hpeopleRows, hobjects, hobjectRows, -⟩ := hloads
  rw [resultRow_get hrow (by decide) (by decide)] at hpeople hobjects
  rw [hpeopleRow] at hpeopleRows
  rw [hobjectRow] at hobjectRows
  constructor
  · exact detections_of_document himage.people readFace_carried hpeopleText hpeopleRows
      (himage.peopleDocument _ _ hpeople) (People.read_detections hmake.people)
  · exact detections_of_document himage.objects readObject_carried hobjectText hobjectRows
      (himage.objectsDocument _ _ hobjects) (Objects.read_detections hmake.objects)

/-- The labels that are left are those of the child rows whose confidence reaches the threshold. -/
theorem mem_labelsOf_confident {detections : List Detection} {rows : List ChildRow}
    {threshold : Amount} {label : String} (htell : List.Forall₂ Detection.TellsOf detections rows)
    (hrows : ∀ child ∈ rows, child.IsDetection) :
    label ∈ labelsOf (confident threshold detections) ↔
      ∃ child ∈ rows, child.labelText = label ∧
        reaches child.carriedConfidence threshold = true := by
  induction htell with
  | nil => simp [labelsOf, confident]
  | @cons d child detections rows htells _ ih =>
      obtain ⟨hchild, hrest⟩ := List.forall_mem_cons.mp hrows
      have hfirst : labelsOf (d :: confident threshold detections) =
          child.labelText :: labelsOf (confident threshold detections) := by
        apply List.filterMap_cons_some
        rw [htells.label, properLabel?, Option.filter_some, if_pos]
        simp [hchild.labelText_ne.2]
      rw [List.exists_mem_cons_iff, ← ih hrest, confident, List.filter_cons, htells.confidence,
        ← confident]
      by_cases hreaches : reaches child.carriedConfidence threshold = true
      · rw [if_pos hreaches, hfirst, List.mem_cons, and_iff_left hreaches, eq_comm]
      · rw [if_neg hreaches, or_iff_right fun h => hreaches h.2]

/-- What a detection facet is answered by, once the threshold has been applied. -/
theorem Catalog.KeepsDetections.mem_detected (himage : catalog.KeepsDetections image)
    (hrow : catalog.resultRow image = .ok row) (hread : (Record.ofRow row).result = .ok record)
    {facet : ListFacet} (hfacet : facet = .people ∧ table = .people ∨
      facet = .objects ∧ table = .objects) {threshold : Amount} {label : String} :
    label ∈ (record.restrict (some threshold)).detected facet ↔
      ∃ child ∈ catalog.childrenOf table image.id, child.labelText = label ∧
        reaches child.carriedConfidence threshold = true := by
  obtain ⟨hpeople, hobjects⟩ := himage.detections hrow hread
  rcases hfacet with ⟨rfl, rfl⟩ | ⟨rfl, rfl⟩
  · exact mem_labelsOf_confident hpeople himage.people
  · exact mem_labelsOf_confident hobjects himage.objects

end PhotoCatalog
