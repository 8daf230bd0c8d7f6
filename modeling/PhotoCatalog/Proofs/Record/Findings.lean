import PhotoCatalog.Proofs.Record.Parts

/-!
What the reading of a row finds.  A record is read from a row exactly when there are documents, parts
and sizes that the steps of the reading come to; the record is put together from them.
-/

namespace PhotoCatalog

open PhotoCatalog.Text

/-- What a document is loaded as does not depend on its name, which only the warning tells. -/
theorem loadDocument_name (name name' : String) (v : Value) :
    (loadDocument name v).result = (loadDocument name' v).result := by
  have hread : ∀ text, (readDocument name text).result = (readDocument name' text).result := by
    intro text
    rw [readDocument, readDocument]
    split
    · rfl
    · split <;> rfl
  cases v with
  | text s => exact hread s
  | bytes data => exact hread (decodeLossy data)
  | null | bool | int | float | date | moment | list | map => rfl

variable {document : Value} {row : Row} {r : Record}

/-- A column that holds no document: nothing, or what spells none. -/
def Row.LacksDocument (row : Row) (column : String) : Prop :=
  ∀ name, (loadDocument name (row.get column)).result = .ok .null

/-- Where a loop of readings has come to its end, each of them has a result. -/
theorem Reading.of_forM_result {α : Type} {β : α → Type} {read : (item : α) → Reading (β item)}
    {items : List α} (hall : (items.forM fun item => discard (read item)).result = .ok ()) :
    ∀ item ∈ items, ∃ b, (read item).result = .ok b := by
  induction items with
  | nil => exact List.forall_mem_nil _
  | cons item items ih =>
      obtain ⟨_, hfirst, hrest⟩ := Reading.bind_result_eq_ok.mp hall
      obtain ⟨b, hb, -⟩ := Reading.bind_result_eq_ok.mp hfirst
      exact List.forall_mem_cons.mpr ⟨⟨b, hb⟩, ih hrest⟩

/-- Every field of metadata is what its reading gives. -/
theorem Metadata.read_field {m : Metadata} (hread : (Metadata.read document row).result = .ok m)
    (field : MetadataField) :
    (field.read (document.entry field.shape.group.key) row).result = .ok (m.get field) := by
  obtain ⟨_, hall, hread⟩ := Reading.bind_result_eq_ok.mp hread
  obtain ⟨b, hb⟩ := Reading.of_forM_result hall field field.mem_all
  cases hread
  rw [hb]
  simp only [Reading.resultD, hb]

/-- Without a document of metadata, every field is what its column tells. -/
theorem Metadata.read_null {m : Metadata} (hread : (Metadata.read .null row).result = .ok m)
    (field : MetadataField) :
    (usable field.kind.read field.shape.column (row.get field.shape.column)).result =
      .ok (m.get field) :=
  Metadata.read_field hread field

/-- What the reading of a row finds on its way: the documents, and the size that columns tell. -/
structure Findings where
  metadata : Value
  description : Value
  people : Value
  peopleRows : Value
  objects : Value
  objectRows : Value
  scene : Value
  width : Option Int
  height : Option Int

/-- The documents that were found, with their columns. -/
def Findings.documents (f : Findings) : List (String × Value) := [
  ("metadata_json", f.metadata),
  ("description_json", f.description),
  ("people_json", f.people),
  (peopleRowsColumn, f.peopleRows),
  ("objects_json", f.objects),
  (objectRowsColumn, f.objectRows),
  ("scenes_json", f.scene)]

/-- How a record comes from what the reading of its row has found. -/
structure Findings.Make (f : Findings) (row : Row) (r : Record) : Prop where
  loads : ∀ e ∈ f.documents, ∀ name, (loadDocument name (row.get e.1)).result = .ok e.2
  path : r.path = pathText (row.get "path")
  metadata : (Metadata.read f.metadata row).result = .ok r.metadata
  description : (Description.read f.description row).result = .ok r.description
  people : (People.read f.people row f.peopleRows).result = .ok r.people
  objects : (Objects.read f.objects row f.objectRows).result = .ok r.objects
  scene : (Scene.read f.scene row).result = .ok r.scene
  widthFound : (usable Value.toCount "width" (row.get "width")).result = .ok f.width
  heightFound : (usable Value.toCount "height" (row.get "height")).result = .ok f.height
  width : r.width = f.width.orElse fun _ => r.metadata.get .width
  height : r.height = f.height.orElse fun _ => r.metadata.get .height

theorem Findings.Make.ofRow {f : Findings} (hmake : f.Make row r) :
    (Record.ofRow row).result = .ok r := by
  have hloads := hmake.loads
  simp only [Findings.documents, List.forall_mem_cons] at hloads
  obtain ⟨hmetadata, hdescription, hpeople, hpeopleRows, hobjects, hobjectRows, hscene, -⟩ := hloads
  simp only [Record.ofRow, Reading.result_bind, hmetadata, hdescription, hpeople, hpeopleRows,
    hobjects, hobjectRows, hscene, hmake.metadata, hmake.description, hmake.people, hmake.objects,
    hmake.scene, hmake.widthFound, hmake.heightFound, ok_bind, ← hmake.path, ← hmake.width,
    ← hmake.height]
  rfl

/-- The record of a row is the one that its findings make. -/
theorem Record.ofRow_eq_ok_iff :
    (Record.ofRow row).result = .ok r ↔ ∃ f : Findings, f.Make row r := by
  refine ⟨fun hread => ?_, fun ⟨f, hmake⟩ => hmake.ofRow⟩
  rw [Record.ofRow] at hread
  obtain ⟨metadataDocument, hmetadataDocument, hread⟩ := Reading.bind_result_eq_ok.mp hread
  obtain ⟨metadata, hmetadata, hread⟩ := Reading.bind_result_eq_ok.mp hread
  obtain ⟨descriptionDocument, hdescriptionDocument, hread⟩ := Reading.bind_result_eq_ok.mp hread
  obtain ⟨description, hdescription, hread⟩ := Reading.bind_result_eq_ok.mp hread
  obtain ⟨peopleDocument, hpeopleDocument, hread⟩ := Reading.bind_result_eq_ok.mp hread
  obtain ⟨peopleRows, hpeopleRows, hread⟩ := Reading.bind_result_eq_ok.mp hread
  obtain ⟨people, hpeople, hread⟩ := Reading.bind_result_eq_ok.mp hread
  obtain ⟨objectsDocument, hobjectsDocument, hread⟩ := Reading.bind_result_eq_ok.mp hread
  obtain ⟨objectRows, hobjectRows, hread⟩ := Reading.bind_result_eq_ok.mp hread
  obtain ⟨objects, hobjects, hread⟩ := Reading.bind_result_eq_ok.mp hread
  obtain ⟨sceneDocument, hsceneDocument, hread⟩ := Reading.bind_result_eq_ok.mp hread
  obtain ⟨scene, hscene, hread⟩ := Reading.bind_result_eq_ok.mp hread
  obtain ⟨width, hwidth, hread⟩ := Reading.bind_result_eq_ok.mp hread
  obtain ⟨height, hheight, hread⟩ := Reading.bind_result_eq_ok.mp hread
  cases hread
  refine ⟨⟨metadataDocument, descriptionDocument, peopleDocument, peopleRows, objectsDocument,
    objectRows, sceneDocument, width, height⟩, ?_, rfl, hmetadata, hdescription, hpeople, hobjects,
    hscene, hwidth, hheight, rfl, rfl⟩
  have hany : ∀ {name column document}, (loadDocument name (row.get column)).result = .ok document →
      ∀ name', (loadDocument name' (row.get column)).result = .ok document :=
    fun hload name' => (loadDocument_name name' _ _).trans hload
  simp only [Findings.documents, List.forall_mem_cons]
  exact ⟨hany hmetadataDocument, hany hdescriptionDocument, hany hpeopleDocument, hany hpeopleRows,
    hany hobjectsDocument, hany hobjectRows, hany hsceneDocument, List.forall_mem_nil _⟩

end PhotoCatalog
