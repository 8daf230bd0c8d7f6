import PhotoCatalog.Proofs.Catalog.ResultRow
import PhotoCatalog.Proofs.Record.Bounded

/-!
Records stored as documents.  A row that has only the path and the size of an image, and the parts
of its record as documents, is read as the same record, unless a whole number in the documents is
longer than the reader takes; where there was no document of metadata, the size can be left out too.
-/

namespace PhotoCatalog

open PhotoCatalog.Json PhotoCatalog.Number PhotoCatalog.Text

section

variable {α : Type} {convert : Value → Except Fault α} {place column : String} {v : Value}
  {o : Option α} {row : Row}

/-- A column is asked when the document does not tell. -/
theorem column_of_merged_none (hread : (merged convert place v column row).result = .ok none) :
    (usable convert column (row.get column)).result = .ok none := by
  obtain ⟨found, -, hread⟩ := Reading.bind_result_eq_ok.mp hread
  cases found with
  | none => exact hread
  | some a => cases hread

/-- What a document does not tell stays unknown where the column does not tell it either. -/
theorem merged_of_none (husable : (usable convert place v).result = .ok o)
    (hcolumn : o = none → (usable convert column (row.get column)).result = .ok none) :
    (merged convert place v column row).result = .ok o := by
  cases o with
  | some a => exact merged_of_some husable row
  | none =>
      rw [merged, Reading.orElse, Reading.result_bind, husable]
      exact hcolumn rfl

/-- Of a row only the column that is asked matters. -/
theorem merged_of_absent (habsent : row.get column = .null) :
    merged convert place v column row = merged convert place v column [] := by
  rw [merged, merged, habsent]
  rfl

end

variable {document : Value} {row : Row} {r : Record} {escape : Char → List Char}

/-- Metadata are read from their document beside a row that does not tell what they leave out. -/
theorem Metadata.read_document_of_row {m : Metadata}
    (hrow : ∀ field, m.get field = none →
      (usable field.kind.read field.shape.column (row.get field.shape.column)).result = .ok none) :
    (Metadata.read m.document row).result = .ok m := by
  have hfield : ∀ field : MetadataField,
      (field.read (m.document.entry field.shape.group.key) row).result = .ok (m.get field) := by
    intro field
    rw [MetadataField.read, m.entry_group, m.entry_field]
    exact merged_of_none (field.kind.usable_toValue _ (m.get field)) (hrow field)
  have hall := Reading.forM_result fun field (_ : field ∈ MetadataField.all) =>
    ⟨m.get field, hfield field⟩
  have hget : ∀ field : MetadataField, Reading.resultD
      (field.read (m.document.entry field.shape.group.key) row) none = m.get field := by
    intro field
    rw [Reading.resultD, hfield field]
  simp only [Metadata.read, Reading.result_bind, hall, ok_bind, Reading.result_pure, hget]

/-- The parts of a record as documents, with the columns that keep them. -/
def Record.parts (r : Record) : List (String × Value) := [
  ("metadata_json", r.metadata.document),
  ("description_json", r.description.document),
  ("people_json", r.people.document),
  ("objects_json", r.objects.document),
  ("scenes_json", r.scene.document)]

/-- The row that keeps a record as documents, beside some columns of another row. -/
def Record.storedRow (r : Record) (escape : Char → List Char) (columns : List String) (row : Row) :
    Row :=
  columns.map (fun column => (column, row.get column)) ++
    r.parts.map fun part => (part.1, .text (writeWith escape part.2))

/-- The written form of a mapping is loaded, unless it has too long a number. -/
theorem loadDocument_written (hescape : Faithful escape) {entries : List (String × Value)}
    (hreadable : Readable nestingLimit (.map entries)) (name : String) :
    (loadDocument name (.text (writeWith escape (.map entries)))).result =
      if (Value.map entries).Short then .ok (.map entries) else .error .malformedNumber := by
  have hblank : isBlankText (writeWith escape (.map entries)) = false := by
    rw [isBlankText, writeWith, String.toList_append, String.toList_append]
    rfl
  rw [loadDocument, readDocument, hblank, hreadable.read_writeWith hescape]
  by_cases hshort : (Value.map entries).Short
  · rw [if_pos hshort]
    rfl
  · rw [if_neg hshort]
    rfl

/-- The columns of a row that tell of anything but metadata, the path and the documents. -/
def plainColumns : List String := [
  "has_explicit_content", "has_nudity", "picture_type", "overall_mood", "style_type",
  "short_description", "long_description", "keywords", "people_count", "objects_count",
  "scene_label", "scene_confidence", peopleRowsColumn, objectRowsColumn]

/-- A row that tells nothing but the size, beside what its documents tell. -/
def Row.IsPlain (row : Row) : Prop := ∀ column ∈ plainColumns, row.get column = .null

theorem Row.IsPlain.merged {α : Type} {convert : Value → Except Fault α} {place column : String}
    {v : Value} (hrow : row.IsPlain) (hcolumn : column ∈ plainColumns) :
    merged convert place v column row = merged convert place v column [] :=
  merged_of_absent (hrow column hcolumn)

theorem Description.read_document_of_row (hrow : row.IsPlain) (d : Description) :
    (Description.read d.document row).result = .ok d := by
  have hkeywords : row.get "keywords" = Row.get [] "keywords" := hrow _ (by decide)
  rw [← d.read_document, Description.read, Description.read, hkeywords]
  simp only [hrow.merged (show "has_explicit_content" ∈ plainColumns by decide),
    hrow.merged (show "has_nudity" ∈ plainColumns by decide),
    hrow.merged (show "picture_type" ∈ plainColumns by decide),
    hrow.merged (show "overall_mood" ∈ plainColumns by decide),
    hrow.merged (show "style_type" ∈ plainColumns by decide),
    hrow.merged (show "short_description" ∈ plainColumns by decide),
    hrow.merged (show "long_description" ∈ plainColumns by decide)]

theorem People.read_document_of_row (hrow : row.IsPlain) {p : People}
    (hboxes : HaveCorners p.detections) : (People.read p.document row .null).result = .ok p := by
  have hcount : row.get "people_count" = Row.get [] "people_count" := hrow _ (by decide)
  rw [← p.read_document hboxes, People.read, People.read, hcount]
  simp only [hrow.merged (show "people_count" ∈ plainColumns by decide)]

theorem Objects.read_document_of_row (hrow : row.IsPlain) {o : Objects}
    (hboxes : HaveCorners o.detections) (hlabels : (keysOf o.labelCounts).Nodup) :
    (Objects.read o.document row .null).result = .ok o := by
  rw [← o.read_document hboxes hlabels, Objects.read, Objects.read]
  simp only [hrow.merged (show "objects_count" ∈ plainColumns by decide)]

theorem Scene.read_document_of_row (hrow : row.IsPlain) (s : Scene) :
    (Scene.read s.document row).result = .ok s := by
  rw [← s.read_document, Scene.read, Scene.read]
  simp only [hrow.merged (show "scene_label" ∈ plainColumns by decide),
    hrow.merged (show "scene_confidence" ∈ plainColumns by decide)]

/-- Rows that keep the parts of a record as documents: beside them they have the path, what they
tell of the size agrees with the record, and they tell nothing else. -/
structure Row.Keeps (row : Row) (escape : Char → List Char) (r : Record) : Prop where
  plain : row.IsPlain
  path : pathText (row.get "path") = r.path
  parts : ∀ part ∈ r.parts, row.get part.1 = .text (writeWith escape part.2)
  fields : ∀ field, r.metadata.get field = none →
    (usable field.kind.read field.shape.column (row.get field.shape.column)).result = .ok none
  width : ∃ width, (usable Value.toCount "width" (row.get "width")).result = .ok width ∧
    (width.orElse fun _ => r.metadata.get .width) = r.width
  height : ∃ height, (usable Value.toCount "height" (row.get "height")).result = .ok height ∧
    (height.orElse fun _ => r.metadata.get .height) = r.height

/-- The parts of a well-formed record are loaded, unless they have too long a number. -/
theorem Record.WellFormed.loadDocument_part (hr : r.WellFormed) (hescape : Faithful escape)
    {part : String × Value} (hpart : part ∈ r.parts) (name : String) :
    (loadDocument name (.text (writeWith escape part.2))).result =
      if part.2.Short then .ok part.2 else .error .malformedNumber := by
  simp only [Record.parts, List.mem_cons, List.not_mem_nil, or_false] at hpart
  rcases hpart with rfl | rfl | rfl | rfl | rfl
  · exact loadDocument_written hescape r.metadata.readable_document name
  · exact loadDocument_written hescape r.description.readable_document name
  · exact loadDocument_written hescape r.people.readable_document name
  · exact loadDocument_written hescape (Objects.readable_document hr.labels) name
  · exact loadDocument_written hescape r.scene.readable_document name

/-- Where every part is short, a record is read from a row that keeps it. -/
theorem Row.Keeps.ofRow_of_short (hkeeps : row.Keeps escape r) (hescape : Faithful escape)
    (hr : r.WellFormed) (hshort : ∀ part ∈ r.parts, part.2.Short) :
    (Record.ofRow row).result = .ok r := by
  have hload : ∀ part ∈ r.parts, ∀ name,
      (loadDocument name (row.get part.1)).result = .ok part.2 := by
    intro part hpart name
    rw [hkeeps.parts part hpart, hr.loadDocument_part hescape hpart, if_pos (hshort part hpart)]
  have hnone : ∀ column ∈ plainColumns, ∀ name,
      (loadDocument name (row.get column)).result = .ok .null := by
    intro column hcolumn name
    rw [hkeeps.plain column hcolumn]
    rfl
  simp only [Record.parts, List.forall_mem_cons] at hload
  obtain ⟨hmetadata, hdescription, hpeople, hobjects, hscene, -⟩ := hload
  obtain ⟨width, hwidth, hwidth'⟩ := hkeeps.width
  obtain ⟨height, hheight, hheight'⟩ := hkeeps.height
  let f : Findings := ⟨r.metadata.document, r.description.document, r.people.document, .null,
    r.objects.document, .null, r.scene.document, width, height⟩
  have hmake : f.Make row r := {
    loads := by
      simp only [Findings.documents, List.forall_mem_cons]
      exact ⟨hmetadata, hdescription, hpeople, hnone _ (by decide), hobjects, hnone _ (by decide),
        hscene, List.forall_mem_nil _⟩
    path := hkeeps.path.symm
    metadata := Metadata.read_document_of_row hkeeps.fields
    description := Description.read_document_of_row hkeeps.plain r.description
    people := People.read_document_of_row hkeeps.plain hr.faces
    objects := Objects.read_document_of_row hkeeps.plain hr.objects hr.labels
    scene := Scene.read_document_of_row hkeeps.plain r.scene
    widthFound := hwidth
    heightFound := hheight
    width := hwidth'.symm
    height := hheight'.symm }
  exact hmake.ofRow

/-- A row that keeps a record is read only where every part is short. -/
theorem Row.Keeps.short_of_ofRow (hkeeps : row.Keeps escape r) (hescape : Faithful escape)
    (hr : r.WellFormed) {read : Record} (hread : (Record.ofRow row).result = .ok read) :
    ∀ part ∈ r.parts, part.2.Short := by
  obtain ⟨f, hmake⟩ := Record.ofRow_eq_ok_iff.mp hread
  have hloads := hmake.loads
  simp only [Findings.documents, List.forall_mem_cons] at hloads
  obtain ⟨hmetadata, hdescription, hpeople, -, hobjects, -, hscene, -⟩ := hloads
  have hloaded : ∀ part ∈ r.parts, ∃ document,
      (loadDocument "" (row.get part.1)).result = .ok document := by
    simp only [Record.parts, List.forall_mem_cons]
    exact ⟨⟨_, hmetadata ""⟩, ⟨_, hdescription ""⟩, ⟨_, hpeople ""⟩, ⟨_, hobjects ""⟩,
      ⟨_, hscene ""⟩, List.forall_mem_nil _⟩
  intro part hpart
  obtain ⟨document, hdocument⟩ := hloaded part hpart
  rw [hkeeps.parts part hpart, hr.loadDocument_part hescape hpart] at hdocument
  split at hdocument
  · assumption
  · cases hdocument

/-- What a row that keeps a record is read as: this record and nothing else, and only where every
part of it is short. -/
theorem Row.Keeps.ofRow_eq_ok_iff (hkeeps : row.Keeps escape r) (hescape : Faithful escape)
    (hr : r.WellFormed) {read : Record} :
    (Record.ofRow row).result = .ok read ↔ read = r ∧ ∀ part ∈ r.parts, part.2.Short := by
  constructor
  · intro hread
    have hshort := hkeeps.short_of_ofRow hescape hr hread
    have hsame := hread.symm.trans (hkeeps.ofRow_of_short hescape hr hshort)
    exact ⟨Except.ok.inj hsame, hshort⟩
  · rintro ⟨rfl, hshort⟩
    exact hkeeps.ofRow_of_short hescape hr hshort

/-- The columns that keep the parts of a record as documents. -/
def partColumns : List String :=
  ["metadata_json", "description_json", "people_json", "objects_json", "scenes_json"]

theorem Record.keysOf_parts (r : Record) : keysOf r.parts = partColumns := rfl

variable {columns : List String} {column : String}

theorem Record.storedRow_get_of_mem (hcolumn : column ∈ columns) :
    (r.storedRow escape columns row).get column = row.get column := by
  rw [Row.get, Record.storedRow, List.lookup_append, List.lookup_graph _ hcolumn]
  rfl

theorem lookup_columns_of_notMem (hcolumn : column ∉ columns) :
    (columns.map fun column => (column, row.get column)).lookup column = none := by
  apply Catalog.lookup_eq_none_of_keys
  rwa [List.map_map, Function.comp_def, List.map_id']

theorem Record.storedRow_get_of_notMem (hcolumn : column ∉ columns)
    (hparts : column ∉ partColumns) : (r.storedRow escape columns row).get column = .null := by
  rw [Row.get, Record.storedRow, List.lookup_append, lookup_columns_of_notMem hcolumn,
    Catalog.lookup_map_values fun document => Value.text (writeWith escape document),
    Catalog.lookup_eq_none_of_keys hparts]
  rfl

theorem Record.storedRow_get_part {part : String × Value} (hpart : part ∈ r.parts)
    (hcolumns : part.1 ∉ columns) :
    (r.storedRow escape columns row).get part.1 = .text (writeWith escape part.2) := by
  have hlookup : r.parts.lookup part.1 = some part.2 := by
    simp only [Record.parts, List.mem_cons, List.not_mem_nil, or_false] at hpart
    rcases hpart with rfl | rfl | rfl | rfl | rfl <;> rfl
  rw [Row.get, Record.storedRow, List.lookup_append, lookup_columns_of_notMem hcolumns,
    Catalog.lookup_map_values fun document => Value.text (writeWith escape document), hlookup]
  rfl

/-- A size is kept by its column, or by the metadata when these have it from the column. -/
theorem Record.storedRow_keeps_size {o fallback size : Option Int} (hparts : column ∉ partColumns)
    (hfound : (usable Value.toCount column (row.get column)).result = .ok o)
    (hsize : size = o.orElse fun _ => fallback) (hkept : column ∈ columns ∨ fallback = o) :
    ∃ found, (usable Value.toCount column
      ((r.storedRow escape columns row).get column)).result = .ok found ∧
        (found.orElse fun _ => fallback) = size := by
  by_cases hcolumn : column ∈ columns
  · refine ⟨o, ?_, hsize.symm⟩
    rw [Record.storedRow_get_of_mem hcolumn, hfound]
  · obtain rfl := hkept.resolve_left hcolumn
    refine ⟨none, ?_, ?_⟩
    · rw [Record.storedRow_get_of_notMem hcolumn hparts]
      rfl
    · rw [hsize]
      cases fallback <;> rfl

/-- The row that keeps a record as documents keeps it, with the size beside them unless the metadata
have no document that could tell another one. -/
theorem Record.storedRow_keeps (hread : (Record.ofRow row).result = .ok r)
    (hcolumns : ∀ column ∈ columns, column ∉ plainColumns ∧ column ∉ partColumns)
    (hpath : "path" ∈ columns)
    (hsize : "width" ∈ columns ∧ "height" ∈ columns ∨ row.LacksDocument "metadata_json") :
    (r.storedRow escape columns row).Keeps escape r := by
  obtain ⟨f, hmake⟩ := Record.ofRow_eq_ok_iff.mp hread
  have hsame : row.LacksDocument "metadata_json" →
      r.metadata.get .width = f.width ∧ r.metadata.get .height = f.height := by
    intro hlacks
    have hload := hmake.loads ("metadata_json", f.metadata) (by simp [Findings.documents]) ""
    have hnull : f.metadata = .null := Except.ok.inj (hload.symm.trans (hlacks ""))
    have hmetadata := hnull ▸ hmake.metadata
    have hwidth := (Metadata.read_null hmetadata .width).symm.trans hmake.widthFound
    have hheight := (Metadata.read_null hmetadata .height).symm.trans hmake.heightFound
    exact ⟨Except.ok.inj hwidth, Except.ok.inj hheight⟩
  constructor
  case plain =>
    intro column hcolumn
    have hparts : ∀ column ∈ plainColumns, column ∉ partColumns := by decide
    exact Record.storedRow_get_of_notMem (fun hmem => (hcolumns column hmem).1 hcolumn)
      (hparts column hcolumn)
  case path => rw [Record.storedRow_get_of_mem hpath, hmake.path]
  case parts =>
    intro part hpart
    refine Record.storedRow_get_part hpart fun hmem => (hcolumns part.1 hmem).2 ?_
    exact r.keysOf_parts ▸ List.mem_map_of_mem hpart
  case fields =>
    intro field hnone
    have hparts : field.shape.column ∉ partColumns := by cases field <;> decide
    by_cases hcolumn : field.shape.column ∈ columns
    · have hfield := Metadata.read_field hmake.metadata field
      rw [hnone] at hfield
      rw [Record.storedRow_get_of_mem hcolumn]
      exact column_of_merged_none hfield
    · rw [Record.storedRow_get_of_notMem hcolumn hparts]
      rfl
  case width =>
    refine Record.storedRow_keeps_size (by decide) hmake.widthFound hmake.width ?_
    exact hsize.imp And.left fun hlacks => (hsame hlacks).1
  case height =>
    refine Record.storedRow_keeps_size (by decide) hmake.heightFound hmake.height ?_
    exact hsize.imp And.right fun hlacks => (hsame hlacks).2

/-- A row that tells everything in plain columns, with an image of some width. -/
def plainRow (width : Int) : Row := [
  ("path", .text "/photos/a.jpg"),
  ("width", .int width),
  ("camera_make", .text "Canon"),
  ("picture_type", .text "landscape"),
  ("people_count", .int 2)]

/-- What its columns tell of the camera and of the size. -/
def plainMetadata (width : Int) : Metadata where
  get
    | .make => some "Canon"
    | .width => some width
    | _ => none

/-- Its record. -/
def plainRecord (width : Int) : Record where
  path := "/photos/a.jpg"
  width := some width
  height := none
  metadata := plainMetadata width
  description := { Description.blank with pictureType := some "landscape" }
  people := ⟨2, [], [], true⟩
  objects := ⟨0, [], []⟩
  scene := .unknown

theorem ofRow_plainRow (width : Int) :
    (Record.ofRow (plainRow width)).result = .ok (plainRecord width) := by
  have hget : plainMetadata width =
      ⟨fun field => Reading.resultD (field.read .null (plainRow width)) none⟩ := by
    refine congrArg Metadata.mk (funext fun field => ?_)
    cases field <;> rfl
  have hmetadata :
      (Metadata.read .null (plainRow width)).result = .ok (plainMetadata width) := by
    rw [hget]
    rfl
  refine Reading.bind_result_eq_ok.mpr ⟨.null, rfl, ?_⟩
  exact Reading.bind_result_eq_ok.mpr ⟨plainMetadata width, hmetadata, rfl⟩

end PhotoCatalog
