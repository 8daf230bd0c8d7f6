import PhotoCatalog.Proofs.Json.RoundTrip
import PhotoCatalog.Proofs.Record.Parts
import PhotoCatalog.Proofs.Record.WellFormed

/-!
Records and their documents.  Every record that a row or a document gives, whatever thresholds and
paths it has been given since, is restored from its document, and from the JSON text of the document
exactly when its whole numbers keep to the digit limit.
-/

namespace PhotoCatalog

open PhotoCatalog.Json PhotoCatalog.Number PhotoCatalog.Text

variable {r : Record}

theorem orElse_eq_self {α : Type} {o fallback : Option α} (hnone : o = none → fallback = none) :
    (o.orElse fun _ => fallback) = o := by
  cases o with
  | none => exact hnone rfl
  | some a => rfl

/-- A well-formed record is restored from its document. -/
theorem Record.WellFormed.ofDocument_document (hr : r.WellFormed) :
    (Record.ofDocument r.document).result = .ok r := by
  have hmetadata : r.document.entry "Metadata" = r.metadata.document := rfl
  have hwidth : r.document.entry "Width" = .ofOption .int r.width := rfl
  have hheight : r.document.entry "Height" = .ofOption .int r.height := rfl
  have hdescription : r.document.entry "Description" = r.description.document := rfl
  have hpeople : r.document.entry "People" = r.people.document := rfl
  have hobjects : r.document.entry "Objects" = r.objects.document := rfl
  have hscene : r.document.entry "Scenes" = r.scene.document := rfl
  have hpath : pathText (r.document.entry "Path") = r.path := rfl
  simp only [Record.ofDocument, Reading.result_bind, hmetadata, hwidth, hheight, hdescription,
    hpeople, hobjects, hscene, hpath, r.metadata.read_document, usable_int,
    r.description.read_document, r.people.read_document hr.faces,
    r.objects.read_document hr.objects hr.labels, r.scene.read_document, ok_bind,
    orElse_eq_self hr.width, orElse_eq_self hr.height]
  rfl

/-- Records that a row or a document gives, and what thresholds and other paths make of them. -/
inductive Record.Obtained : Record → Prop where
  | ofRow {r : Record} (row : Row) (hread : (Record.ofRow row).result = .ok r) : Obtained r
  | ofDocument {r : Record} (document : Value)
      (hread : (Record.ofDocument document).result = .ok r) : Obtained r
  | restrict {r : Record} (threshold : Option Amount) (hr : Obtained r) :
      Obtained (r.restrict threshold)
  /-- A record that shares its people and objects with one that a threshold is applied to keeps its
  own scene. -/
  | shared {r : Record} (threshold : Amount) (hr : Obtained r) :
      Obtained { r.restrict (some threshold) with scene := r.scene }
  | withPath {r : Record} (path : String) (hr : Obtained r) : Obtained { r with path := path }

theorem Record.Obtained.wellFormed (hr : r.Obtained) : r.WellFormed := by
  induction hr with
  | ofRow row hread => exact Record.ofRow_wellFormed hread
  | ofDocument document hread => exact Record.ofDocument_wellFormed hread
  | restrict threshold _ ih => exact ih.restrict threshold
  | shared threshold _ ih => exact ih.detections threshold _
  | withPath path _ ih => exact ih.withPath path

variable {room : Nat} {labelKey : String}

theorem readable_ofOption {α : Type} {toValue : α → Value}
    (hvalue : ∀ a, Readable room (toValue a)) (o : Option α) :
    Readable room (.ofOption toValue o) := by
  cases o with
  | none => exact Readable.null
  | some a => exact hvalue a

theorem readable_ofTexts (texts : List String) : Readable (room + 1) (.ofTexts texts) := by
  apply Readable.list
  intro v hv
  obtain ⟨s, -, rfl⟩ := List.mem_map.mp hv
  exact Readable.text s

theorem FieldKind.readable_toValue (kind : FieldKind) (a : kind.Carrier) :
    Readable room (kind.toValue a) := by
  cases kind with
  | text => exact Readable.text a
  | real => exact Readable.float a
  | whole => exact Readable.int a

theorem Metadata.readable_document (m : Metadata) : Readable (room + 2) m.document := by
  apply Readable.map
  · rw [keysOf, List.map_map]
    change (MetadataGroup.all.map MetadataGroup.key).Nodup
    decide
  · intro e he
    obtain ⟨group, -, rfl⟩ := List.mem_map.mp he
    apply Readable.map
    · rw [keysOf, List.map_map]
      exact group.keys_nodup
    · intro entry hentry
      obtain ⟨field, -, rfl⟩ := List.mem_map.mp hentry
      exact readable_ofOption field.kind.readable_toValue _

theorem Description.readable_document (d : Description) : Readable (room + 2) d.document := by
  apply Readable.map
  · change ["HasExplicitContent", "HasNudity", "PictureType", "OverallMood", "StyleType",
      "Keywords", "ShortDescription", "LongDescription"].Nodup
    decide
  · simp only [List.forall_mem_cons]
    exact ⟨.bool _, .bool _, readable_ofOption .text _, readable_ofOption .text _,
      readable_ofOption .text _, readable_ofTexts _, readable_ofOption .text _,
      readable_ofOption .text _, List.forall_mem_nil _⟩

theorem Detection.readable_document (hkey : IsLabelKey labelKey) (d : Detection) :
    Readable (room + 2) (d.document labelKey) := by
  apply Readable.map
  · change ["Confidence", "BBox", labelKey].Nodup
    rcases hkey with rfl | rfl <;> decide
  · simp only [List.forall_mem_cons]
    refine ⟨.float _, readable_ofOption ?_ _, readable_ofOption .text _, List.forall_mem_nil _⟩
    intro corners
    apply Readable.list
    intro v hv
    obtain ⟨n, -, rfl⟩ := List.mem_map.mp hv
    exact Readable.int n

theorem readable_detections (hkey : IsLabelKey labelKey) (detections : List Detection) :
    Readable (room + 3) (.list (detections.map (Detection.document labelKey))) := by
  apply Readable.list
  intro v hv
  obtain ⟨d, -, rfl⟩ := List.mem_map.mp hv
  exact d.readable_document hkey

theorem People.readable_document (p : People) : Readable (room + 4) p.document := by
  apply Readable.map
  · change ["Count", "Faces", "Predictions", "Success"].Nodup
    decide
  · simp only [List.forall_mem_cons]
    exact ⟨.int _, readable_ofTexts _, readable_detections (Or.inl rfl) _, .bool _,
      List.forall_mem_nil _⟩

theorem Objects.readable_document {o : Objects} (hlabels : (keysOf o.labelCounts).Nodup) :
    Readable (room + 4) o.document := by
  apply Readable.map
  · change ["Count", "Predictions", "LabelCounts"].Nodup
    decide
  · simp only [List.forall_mem_cons]
    refine ⟨.int _, readable_detections (Or.inr rfl) _, ?_, List.forall_mem_nil _⟩
    apply Readable.map
    · rw [keysOf, List.map_map]
      exact hlabels
    · intro e he
      obtain ⟨entry, -, rfl⟩ := List.mem_map.mp he
      exact Readable.int entry.2

theorem Scene.readable_document (s : Scene) : Readable (room + 1) s.document := by
  apply Readable.map
  · change ["Label", "Confidence", "ConfidencePercentage", "Success"].Nodup
    decide
  · simp only [List.forall_mem_cons]
    exact ⟨.text _, .float _, .float _, .bool _, List.forall_mem_nil _⟩

/-- The document of a well-formed record is readable. -/
theorem Record.WellFormed.readable_document (hr : r.WellFormed) :
    Readable nestingLimit r.document := by
  apply Readable.map
  · change ["Path", "Width", "Height", "Metadata", "Description", "People", "Objects",
      "Scenes"].Nodup
    decide
  · simp only [List.forall_mem_cons]
    exact ⟨.text _, readable_ofOption .int _, readable_ofOption .int _,
      r.metadata.readable_document, r.description.readable_document, r.people.readable_document,
      Objects.readable_document hr.labels, r.scene.readable_document, List.forall_mem_nil _⟩

theorem Record.width_lt {n : Int} (hshort : r.document.Short) (hwidth : r.width = some n) :
    n.natAbs < 10 ^ maxDigits := by
  have hentry : (Value.ofOption .int r.width).Short :=
    (Value.short_entry.mp (Value.short_entry.mp hshort).2).1
  rw [hwidth] at hentry
  exact Value.short_int.mp hentry

/-- The record that the JSON text of a document tells of. -/
def Record.ofText (text : String) : Except Fault Record := do
  (Record.ofDocument (← Json.read text)).result

/-- A well-formed record is restored from the JSON text of its document exactly when its whole
numbers keep to the digit limit. -/
theorem Record.WellFormed.ofText_document (hr : r.WellFormed) {escape : Char → List Char}
    (hescape : Faithful escape) :
    Record.ofText (writeWith escape r.document) = .ok r ↔ r.document.Short := by
  rw [Record.ofText, hr.readable_document.read_writeWith hescape]
  split
  · rename_i hshort
    rw [ok_bind, hr.ofDocument_document]
    exact ⟨fun _ => hshort, fun _ => rfl⟩
  · rename_i hlong
    exact ⟨nofun, fun hshort => absurd hshort hlong⟩

/-- A description of which nothing is known. -/
def Description.blank : Description := ⟨false, false, none, none, none, [], none, none⟩

/-- A record with a face in a box and an object that has no label. -/
def Record.portrait : Record where
  path := "/photos/a.jpg"
  width := some 4000
  height := none
  metadata := .empty
  description := { Description.blank with keywords := ["sea \"1\""] }
  people := ⟨2, ["Ann"], [⟨0.9, some [1, 2, 3, 4], some "Ann"⟩, ⟨0.1, none, some "Bob"⟩], true⟩
  objects := ⟨1, [⟨0.75, none, none⟩], [("dog", 2)]⟩
  scene := ⟨"beach", 0.3, 30.0, true⟩

/-- A record whose width has one digit more than the reader takes. -/
def Record.vast : Record where
  path := "/photos/a.jpg"
  width := some (10 ^ maxDigits : Nat)
  height := none
  metadata := .empty
  description := .blank
  people := ⟨0, [], [], false⟩
  objects := ⟨0, [], []⟩
  scene := .unknown

end PhotoCatalog
