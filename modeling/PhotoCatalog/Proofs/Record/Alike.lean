import Mathlib.Logic.Relation
import PhotoCatalog.Proofs.Record.Detections
import PhotoCatalog.Proofs.Record.Faults
import PhotoCatalog.Proofs.Record.Slot

/-!
Documents that are read alike.  The tables say what the parts of a record look for in documents, and
for what; documents that are alike in their slots give the same record.
-/

namespace PhotoCatalog

open PhotoCatalog.Text

/-- The keys that a mapping is asked for, with their slots; no two of them are the same up to
case. -/
structure KeyTable where
  slots : List (String × Slot)
  distinct : (slots.map fun e => lower e.1).Nodup

/-- A mapping that is asked for the keys of a table. -/
def Slot.keyed (table : KeyTable) : Slot :=
  .group fun key => ((table.slots.find? fun e => lower e.1 == key).map (·.2)).getD .ignored

def FieldKind.slot : FieldKind → Slot
  | .text => .text
  | .real => .real
  | .whole => .whole

def MetadataGroup.table (group : MetadataGroup) : KeyTable where
  slots := group.fields.map fun field => (field.shape.key, field.kind.slot)
  distinct := by
    rw [List.map_map]
    cases group <;> decide +kernel

def metadataTable : KeyTable where
  slots := MetadataGroup.all.map fun group => (group.key, .keyed group.table)
  distinct := by
    rw [List.map_map]
    decide +kernel

def descriptionTable : KeyTable where
  slots := [
    ("HasExplicitContent", .flag), ("HasNudity", .flag), ("PictureType", .text),
    ("OverallMood", .text), ("StyleType", .text), ("ShortDescription", .text),
    ("LongDescription", .text), ("Keywords", .texts)]
  distinct := by decide +kernel

/-- What is read of every detection, beside its label. -/
def detectionSlots : List (String × Slot) := [
  ("Confidence", .real), ("BBox", .list .corner), ("x_min", .corner), ("y_min", .corner),
  ("x_max", .corner), ("y_max", .corner)]

def faceTable : KeyTable where
  slots := (faceKey, .text) :: ("name", .text) :: detectionSlots
  distinct := by decide +kernel

def objectTable : KeyTable where
  slots := (objectKey, .text) :: detectionSlots
  distinct := by decide +kernel

def peopleTable : KeyTable where
  slots := [
    ("Predictions", .list (.keyed faceTable)), ("Faces", .texts), ("Count", .whole),
    ("Success", .flag)]
  distinct := by decide +kernel

def objectsTable : KeyTable where
  slots := [
    ("Predictions", .list (.keyed objectTable)), ("Count", .whole), ("LabelCounts", .counts)]
  distinct := by decide +kernel

def sceneTable : KeyTable where
  slots := [
    ("Label", .text), ("Confidence", .real), ("ConfidencePercentage", .real), ("Success", .flag)]
  distinct := by decide +kernel

def recordTable : KeyTable where
  slots := [
    ("Path", .text), ("Width", .whole), ("Height", .whole), ("Metadata", .keyed metadataTable),
    ("Description", .keyed descriptionTable), ("People", .keyed peopleTable),
    ("Objects", .keyed objectsTable), ("Scenes", .keyed sceneTable)]
  distinct := by decide +kernel

/-- The documents of a row, by their columns. -/
def documentSlots : List (String × Slot) := [
  ("metadata_json", .keyed metadataTable), ("description_json", .keyed descriptionTable),
  ("people_json", .keyed peopleTable), (peopleRowsColumn, .list (.keyed faceTable)),
  ("objects_json", .keyed objectsTable), (objectRowsColumn, .list (.keyed objectTable)),
  ("scenes_json", .keyed sceneTable)]

variable {table : KeyTable} {key column place : String} {p : Slot}
  {document document' childRows childRows' item item' v w : Value} {row row' : Row}

/-- An entry has the slot that the table has under its key. -/
theorem Slot.entry_keyed (hmem : (key, p) ∈ table.slots) : (Slot.keyed table).entry key = p := by
  change ((table.slots.find? fun e => lower e.1 == lower key).map (·.2)).getD .ignored = p
  cases hfind : table.slots.find? fun e => lower e.1 == lower key with
  | none =>
      rw [List.find?_eq_none] at hfind
      exact absurd (beq_self_eq_true (lower key)) (hfind (key, p) hmem)
  | some e =>
      have hlower := List.find?_some hfind
      rw [beq_iff_eq] at hlower
      rw [List.inj_on_of_nodup_map table.distinct (List.mem_of_find?_eq_some hfind) hmem hlower]
      rfl

/-- Alike documents are alike under every key of their table. -/
theorem Slot.Alike.at_key (halike : (Slot.keyed table).Alike document document')
    (hmem : (key, p) ∈ table.slots) : p.Alike (document.entry key) (document'.entry key) := by
  have hentry : ((Slot.keyed table).entry key).Alike (document.entry key) (document'.entry key) :=
    halike.2 key
  rwa [Slot.entry_keyed hmem] at hentry

/-- Alike values in the slot of a list are lists of alike items, or no lists. -/
theorem Slot.Alike.list_cases (halike : (Slot.list p).Alike v w) :
    (∃ items items', v = .list items ∧ w = .list items' ∧ List.Forall₂ p.Alike items items') ∨
      (∀ items, v ≠ .list items) ∧ ∀ items, w ≠ .list items := by
  cases v with
  | list items =>
      cases w with
      | list items' => exact Or.inl ⟨items, items', rfl, rfl, halike⟩
      | null | bool | int | float | text | bytes | date | moment | map => exact halike.elim
  | null | bool | int | float | text | bytes | date | moment | map =>
      cases w with
      | list items' => exact halike.elim
      | null | bool | int | float | text | bytes | date | moment | map =>
          exact Or.inr ⟨nofun, nofun⟩

/-- Alike values in the slot of counts are mappings that give the same counts, or no mappings. -/
theorem Slot.Alike.counts_cases (halike : Slot.counts.Alike v w) :
    (∃ entries entries', v = .map entries ∧ w = .map entries' ∧
      ∀ counts, (readCounts counts entries).result = (readCounts counts entries').result) ∨
      (∀ entries, v ≠ .map entries) ∧ ∀ entries, w ≠ .map entries := by
  cases v with
  | map entries =>
      cases w with
      | map entries' => exact Or.inl ⟨entries, entries', rfl, rfl, halike⟩
      | null | bool | int | float | text | bytes | date | moment | list => exact halike.elim
  | null | bool | int | float | text | bytes | date | moment | list =>
      cases w with
      | map entries' => exact halike.elim
      | null | bool | int | float | text | bytes | date | moment | list =>
          exact Or.inr ⟨nofun, nofun⟩

theorem Slot.Alike.eq_of_text (halike : Slot.text.Alike v w) : v = w := halike

theorem Slot.Alike.toText (halike : Slot.text.Alike v w) : ConvertAlike Value.toText v w :=
  fun _ => halike.eq_of_text ▸ rfl

theorem FieldKind.convertAlike {kind : FieldKind} (halike : kind.slot.Alike v w) :
    ConvertAlike kind.read v w := by
  cases kind with
  | text => exact Slot.Alike.toText halike
  | real | whole => exact halike

/-- Rows that differ at most in the columns that hold documents. -/
def Row.SamePlain (row row' : Row) : Prop :=
  ∀ column ∉ documentColumns, row'.get column = row.get column

theorem merged_alike {α : Type} {convert : Value → Except Fault α} (hrow : row.SamePlain row')
    (hcolumn : column ∉ documentColumns) (halike : ConvertAlike convert v w) :
    (merged convert place v column row).result = (merged convert place w column row').result := by
  refine Reading.result_bind_congr (halike place) fun found => ?_
  cases found with
  | none => rw [hrow column hcolumn]
  | some a => rfl

theorem MetadataField.column_plain (field : MetadataField) :
    field.shape.column ∉ documentColumns := by
  cases field <;> decide

theorem Metadata.read_alike (hrow : row.SamePlain row')
    (halike : (Slot.keyed metadataTable).Alike document document') :
    (Metadata.read document row).result = (Metadata.read document' row').result := by
  have hfield : ∀ field : MetadataField,
      (field.read (document.entry field.shape.group.key) row).result =
        (field.read (document'.entry field.shape.group.key) row').result := by
    intro field
    have hgroup := halike.at_key
      (List.mem_map.mpr ⟨field.shape.group, field.shape.group.mem_all, rfl⟩)
    have hvalue := hgroup.at_key (List.mem_map.mpr ⟨field, field.mem_fields, rfl⟩)
    exact merged_alike hrow field.column_plain (FieldKind.convertAlike hvalue)
  refine Reading.result_bind_congr (Reading.forM_result_congr fun field _ => ?_) fun _ => ?_
  · exact Reading.result_bind_congr (hfield field) fun _ => rfl
  · simp only [Reading.resultD, hfield]

theorem Description.read_alike (hrow : row.SamePlain row')
    (halike : (Slot.keyed descriptionTable).Alike document document') :
    (Description.read document row).result = (Description.read document' row').result := by
  have hslot : ∀ {key p}, (key, p) ∈ descriptionTable.slots →
      p.Alike (document.entry key) (document'.entry key) := halike.at_key
  have hflag : ∀ {key column place}, (key, Slot.flag) ∈ descriptionTable.slots →
      column ∉ documentColumns →
        (merged Value.toBool place (document.entry key) column row).result =
          (merged Value.toBool place (document'.entry key) column row').result :=
    fun hkey hcolumn => merged_alike hrow hcolumn (hslot hkey)
  have htext : ∀ {key column place}, (key, Slot.text) ∈ descriptionTable.slots →
      column ∉ documentColumns →
        (merged Value.toText place (document.entry key) column row).result =
          (merged Value.toText place (document'.entry key) column row').result :=
    fun hkey hcolumn => merged_alike hrow hcolumn (hslot hkey).toText
  have hkeywords : (readTexts ((document.entry "Keywords").orElse (row.get "keywords"))).result =
      (readTexts ((document'.entry "Keywords").orElse (row'.get "keywords"))).result := by
    have hlist : Slot.texts.Alike (document.entry "Keywords") (document'.entry "Keywords") :=
      hslot (by simp [descriptionTable])
    obtain ⟨hnull, htexts⟩ := hlist
    rw [Value.orElse, Value.orElse, hnull, hrow "keywords" (by decide)]
    split
    · rfl
    · exact htexts
  refine Reading.result_bind_congr (hflag (by simp [descriptionTable]) (by decide)) fun _ => ?_
  refine Reading.result_bind_congr (hflag (by simp [descriptionTable]) (by decide)) fun _ => ?_
  refine Reading.result_bind_congr (htext (by simp [descriptionTable]) (by decide)) fun _ => ?_
  refine Reading.result_bind_congr (htext (by simp [descriptionTable]) (by decide)) fun _ => ?_
  refine Reading.result_bind_congr (htext (by simp [descriptionTable]) (by decide)) fun _ => ?_
  refine Reading.result_bind_congr (htext (by simp [descriptionTable]) (by decide)) fun _ => ?_
  refine Reading.result_bind_congr (htext (by simp [descriptionTable]) (by decide)) fun _ => ?_
  exact Reading.result_bind_congr hkeywords fun _ => rfl

theorem cornersOf_of_no_box (hno : ∀ corners, item.entry "BBox" ≠ .list corners) :
    cornersOf item = ["x_min", "y_min", "x_max", "y_max"].map item.entry := by
  rw [cornersOf]
  split
  · rename_i corners hlist
    exact absurd hlist (hno corners)
  · rfl

/-- Alike detections have alike corners. -/
theorem cornersOf_alike (hkeys : ∀ key ∈ ["x_min", "y_min", "x_max", "y_max"],
      Slot.corner.Alike (item.entry key) (item'.entry key))
    (hbox : (Slot.list .corner).Alike (item.entry "BBox") (item'.entry "BBox")) :
    List.Forall₂ Slot.corner.Alike (cornersOf item) (cornersOf item') := by
  have hsingle : List.Forall₂ Slot.corner.Alike
      (["x_min", "y_min", "x_max", "y_max"].map item.entry)
      (["x_min", "y_min", "x_max", "y_max"].map item'.entry) := by
    rw [List.forall₂_map_left_iff, List.forall₂_map_right_iff]
    exact List.forall₂_same.mpr hkeys
  obtain ⟨corners, corners', hlist, hlist', hcorners⟩ | ⟨hno, hno'⟩ := hbox.list_cases
  · rw [cornersOf, cornersOf, hlist, hlist']
    dsimp only
    rw [hcorners.length_eq]
    split
    · exact hcorners
    · exact hsingle
  · rw [cornersOf_of_no_box hno, cornersOf_of_no_box hno']
    exact hsingle

theorem corners_alike {corners corners' : List Value}
    (halike : List.Forall₂ Slot.corner.Alike corners corners') :
    corners.any Value.isNull = corners'.any Value.isNull ∧
      corners.mapM Value.toInt = corners'.mapM Value.toInt := by
  induction halike with
  | nil => exact ⟨rfl, rfl⟩
  | cons hfirst _ ih =>
      obtain ⟨hnull, hint⟩ := hfirst
      rw [List.any_cons, List.any_cons, List.mapM_cons, List.mapM_cons, hnull, hint, ih.1, ih.2]
      exact ⟨rfl, rfl⟩

/-- Alike items of a list of detections are read as the same detection under the same label. -/
theorem Detection.read_alike {label : Value} (htable : detectionSlots ⊆ table.slots)
    (halike : (Slot.keyed table).Alike item item') :
    (Detection.read label item).result = (Detection.read label item').result := by
  have hslot : ∀ {key p}, (key, p) ∈ detectionSlots → p.Alike (item.entry key) (item'.entry key) :=
    fun hmem => halike.at_key (htable hmem)
  have hkeys : ∀ key ∈ ["x_min", "y_min", "x_max", "y_max"],
      Slot.corner.Alike (item.entry key) (item'.entry key) := by
    simp only [List.forall_mem_cons]
    exact ⟨hslot (by simp [detectionSlots]), hslot (by simp [detectionSlots]),
      hslot (by simp [detectionSlots]), hslot (by simp [detectionSlots]), List.forall_mem_nil _⟩
  have hbox : (readBox item).result = (readBox item').result := by
    obtain ⟨hnull, hints⟩ :=
      corners_alike (cornersOf_alike hkeys (hslot (by simp [detectionSlots])))
    simp only [readBox, hnull, hints]
  have hconfidence : Slot.real.Alike (item.entry "Confidence") (item'.entry "Confidence") :=
    hslot (by simp [detectionSlots])
  refine Reading.result_bind_congr (hconfidence _) fun _ => ?_
  exact Reading.result_bind_congr hbox fun _ => rfl

theorem readFace_alike (halike : (Slot.keyed faceTable).Alike item item') :
    (readFace item).result = (readFace item').result := by
  have hface : Slot.text.Alike (item.entry faceKey) (item'.entry faceKey) :=
    halike.at_key List.mem_cons_self
  have hname : Slot.text.Alike (item.entry "name") (item'.entry "name") :=
    halike.at_key (List.mem_cons_of_mem _ List.mem_cons_self)
  rw [readFace, readFace, hface.eq_of_text, hname.eq_of_text]
  exact Detection.read_alike (List.subset_cons_of_subset _ (List.subset_cons_self _ _)) halike

theorem readObject_alike (halike : (Slot.keyed objectTable).Alike item item') :
    (readObject item).result = (readObject item').result := by
  have hlabel : Slot.text.Alike (item.entry objectKey) (item'.entry objectKey) :=
    halike.at_key List.mem_cons_self
  rw [readObject, readObject, hlabel.eq_of_text]
  exact Detection.read_alike (List.subset_cons_self _ _) halike

variable {read : Value → Reading Detection}

theorem readItems_alike {items items' : List Value}
    (hread : ∀ v w, (Slot.keyed table).Alike v w → (read v).result = (read w).result)
    (halike : List.Forall₂ (Slot.keyed table).Alike items items') :
    (readItems read items).result = (readItems read items').result := by
  induction halike with
  | nil => rfl
  | cons hfirst _ ih =>
      rw [readItems, readItems, hfirst.1]
      split
      · refine Reading.result_bind_congr (hread _ _ hfirst) fun _ => ?_
        exact Reading.result_bind_congr ih fun _ => rfl
      · exact ih

theorem readDetections_of_list {items : List Value}
    (hlist : document.entry "Predictions" = .list items) :
    readDetections read document childRows = readItems read items := by
  rw [readDetections.eq_def, hlist]

theorem readDetections_of_none (hdocument : document.ListsNoPredictions)
    (hchildRows : ∀ items, childRows ≠ .list items) :
    readDetections read document childRows = pure [] := by
  rw [readDetections.eq_def]
  split
  · rename_i items hlist
    exact absurd hlist (hdocument items)
  · rename_i items hlist
    exact absurd rfl (hchildRows items)
  · rfl

/-- Alike documents and child rows tell of the same detections. -/
theorem readDetections_alike
    (hread : ∀ v w, (Slot.keyed table).Alike v w → (read v).result = (read w).result)
    (hlisted : (Slot.list (.keyed table)).Alike (document.entry "Predictions")
      (document'.entry "Predictions"))
    (hrows : (Slot.list (.keyed table)).Alike childRows childRows') :
    (readDetections read document childRows).result =
      (readDetections read document' childRows').result := by
  obtain ⟨items, items', hitems, hitems', hall⟩ | ⟨hno, hno'⟩ := hlisted.list_cases
  · rw [readDetections_of_list hitems, readDetections_of_list hitems']
    exact readItems_alike hread hall
  obtain ⟨items, items', rfl, rfl, hall⟩ | ⟨hnoRows, hnoRows'⟩ := hrows.list_cases
  · rw [readDetections_of_rows hno, readDetections_of_rows hno']
    exact readItems_alike hread hall
  · rw [readDetections_of_none hno hnoRows, readDetections_of_none hno' hnoRows']

theorem People.read_alike (hrow : row.SamePlain row')
    (halike : (Slot.keyed peopleTable).Alike document document')
    (hchildRows : (Slot.list (.keyed faceTable)).Alike childRows childRows') :
    (People.read document row childRows).result =
      (People.read document' row' childRows').result := by
  have hslot : ∀ {key p}, (key, p) ∈ peopleTable.slots →
      p.Alike (document.entry key) (document'.entry key) := halike.at_key
  have hfaces : Slot.texts.Alike (document.entry "Faces") (document'.entry "Faces") :=
    hslot (by simp [peopleTable])
  obtain ⟨hnull, htexts⟩ := hfaces
  have hcount : Slot.whole.Alike (document.entry "Count") (document'.entry "Count") :=
    hslot (by simp [peopleTable])
  have hsuccess : Slot.flag.Alike (document.entry "Success") (document'.entry "Success") :=
    hslot (by simp [peopleTable])
  refine Reading.result_bind_congr (readDetections_alike (fun _ _ => readFace_alike)
    (hslot (by simp [peopleTable])) hchildRows) fun detections => ?_
  dsimp only
  rw [hnull, hrow "people_count" (by decide)]
  split
  · refine Reading.result_bind_congr rfl fun _ => ?_
    refine Reading.result_bind_congr (merged_alike hrow (by decide) hcount) fun _ => ?_
    exact Reading.result_bind_congr (hsuccess _) fun _ => rfl
  · refine Reading.result_bind_congr htexts fun _ => ?_
    refine Reading.result_bind_congr (merged_alike hrow (by decide) hcount) fun _ => ?_
    exact Reading.result_bind_congr (hsuccess _) fun _ => rfl

theorem Objects.read_alike (hrow : row.SamePlain row')
    (halike : (Slot.keyed objectsTable).Alike document document')
    (hchildRows : (Slot.list (.keyed objectTable)).Alike childRows childRows') :
    (Objects.read document row childRows).result =
      (Objects.read document' row' childRows').result := by
  have hslot : ∀ {key p}, (key, p) ∈ objectsTable.slots →
      p.Alike (document.entry key) (document'.entry key) := halike.at_key
  have hcount : Slot.whole.Alike (document.entry "Count") (document'.entry "Count") :=
    hslot (by simp [objectsTable])
  have hlabels : Slot.counts.Alike (document.entry "LabelCounts") (document'.entry "LabelCounts") :=
    hslot (by simp [objectsTable])
  refine Reading.result_bind_congr (readDetections_alike (fun _ _ => readObject_alike)
    (hslot (by simp [objectsTable])) hchildRows) fun detections => ?_
  refine Reading.result_bind_congr (merged_alike hrow (by decide) hcount) fun _ => ?_
  obtain ⟨entries, entries', hmap, hmap', hcounts⟩ | ⟨hno, hno'⟩ := hlabels.counts_cases
  · rw [hmap, hmap']
    exact Reading.result_bind_congr (hcounts []) fun _ => rfl
  · split
    · rename_i entries hmap
      exact absurd hmap (hno entries)
    · rfl

theorem Scene.read_alike (hrow : row.SamePlain row')
    (halike : (Slot.keyed sceneTable).Alike document document') :
    (Scene.read document row).result = (Scene.read document' row').result := by
  have hslot : ∀ {key p}, (key, p) ∈ sceneTable.slots →
      p.Alike (document.entry key) (document'.entry key) := halike.at_key
  have hlabel : Slot.text.Alike (document.entry "Label") (document'.entry "Label") :=
    hslot (by simp [sceneTable])
  have hconfidence : Slot.real.Alike (document.entry "Confidence") (document'.entry "Confidence") :=
    hslot (by simp [sceneTable])
  have hpercentage : Slot.real.Alike (document.entry "ConfidencePercentage")
      (document'.entry "ConfidencePercentage") := hslot (by simp [sceneTable])
  have hsuccess : Slot.flag.Alike (document.entry "Success") (document'.entry "Success") :=
    hslot (by simp [sceneTable])
  refine Reading.result_bind_congr (merged_alike hrow (by decide) hlabel.toText) fun label => ?_
  cases label with
  | none => rfl
  | some label =>
      refine Reading.result_bind_congr (merged_alike hrow (by decide) hconfidence) fun _ => ?_
      refine Reading.result_bind_congr (hpercentage _) fun _ => ?_
      exact Reading.result_bind_congr (hsuccess _) fun _ => rfl

/-- Values that are loaded as alike documents. -/
def LoadAlike (p : Slot) (v w : Value) : Prop :=
  ∀ name, SameOutcome p.Alike (loadDocument name v).result (loadDocument name w).result

/-- Rows that are read alike. -/
structure Row.Alike (row row' : Row) : Prop where
  plain : row.SamePlain row'
  documents : ∀ e ∈ documentSlots, LoadAlike e.2 (row.get e.1) (row'.get e.1)

/-- Alike rows give the same record, or fail alike. -/
theorem Row.Alike.ofRow (halike : row.Alike row') :
    (Record.ofRow row).result = (Record.ofRow row').result := by
  -- The reading of the row, link by link; documents come first where a part is read from them.
  have hrow := halike.plain
  have hdocuments := halike.documents
  simp only [documentSlots, List.forall_mem_cons] at hdocuments
  obtain ⟨hmetadata, hdescription, hpeople, hpeopleRows, hobjects, hobjectRows, hscene, -⟩ :=
    hdocuments
  rw [Record.ofRow, Record.ofRow, hrow "path" (by decide), hrow "width" (by decide),
    hrow "height" (by decide)]
  refine Reading.result_bind_of_same (hmetadata _) fun _ _ hmetadata => ?_
  refine Reading.result_bind_congr (Metadata.read_alike hrow hmetadata) fun metadata => ?_
  refine Reading.result_bind_of_same (hdescription _) fun _ _ hdescription => ?_
  refine Reading.result_bind_congr (Description.read_alike hrow hdescription) fun description => ?_
  refine Reading.result_bind_of_same (hpeople _) fun _ _ hpeople => ?_
  refine Reading.result_bind_of_same (hpeopleRows _) fun _ _ hpeopleRows => ?_
  refine Reading.result_bind_congr (People.read_alike hrow hpeople hpeopleRows) fun people => ?_
  refine Reading.result_bind_of_same (hobjects _) fun _ _ hobjects => ?_
  refine Reading.result_bind_of_same (hobjectRows _) fun _ _ hobjectRows => ?_
  refine Reading.result_bind_congr (Objects.read_alike hrow hobjects hobjectRows) fun objects => ?_
  refine Reading.result_bind_of_same (hscene _) fun _ _ hscene => ?_
  exact Reading.result_bind_congr (Scene.read_alike hrow hscene) fun scene => rfl

/-- Alike documents of records give the same record, or fail alike. -/
theorem Record.ofDocument_alike (halike : (Slot.keyed recordTable).Alike document document') :
    (Record.ofDocument document).result = (Record.ofDocument document').result := by
  have hslot : ∀ {key p}, (key, p) ∈ recordTable.slots →
      p.Alike (document.entry key) (document'.entry key) := halike.at_key
  have hrow : Row.SamePlain [] [] := fun _ _ => rfl
  have hpath : Slot.text.Alike (document.entry "Path") (document'.entry "Path") :=
    hslot (by simp [recordTable])
  have hwidth : Slot.whole.Alike (document.entry "Width") (document'.entry "Width") :=
    hslot (by simp [recordTable])
  have hheight : Slot.whole.Alike (document.entry "Height") (document'.entry "Height") :=
    hslot (by simp [recordTable])
  rw [Record.ofDocument, Record.ofDocument, hpath.eq_of_text]
  refine Reading.result_bind_congr
    (Metadata.read_alike hrow (hslot (by simp [recordTable]))) fun _ => ?_
  refine Reading.result_bind_congr (hwidth _) fun _ => ?_
  refine Reading.result_bind_congr (hheight _) fun _ => ?_
  refine Reading.result_bind_congr
    (Description.read_alike hrow (hslot (by simp [recordTable]))) fun _ => ?_
  refine Reading.result_bind_congr
    (People.read_alike hrow (hslot (by simp [recordTable])) (.refl _ .null)) fun _ => ?_
  refine Reading.result_bind_congr
    (Objects.read_alike hrow (hslot (by simp [recordTable])) (.refl _ .null)) fun _ => ?_
  exact Reading.result_bind_congr
    (Scene.read_alike hrow (hslot (by simp [recordTable]))) fun _ => rfl

/-- Rows in whose documents no mapping has two keys that are the same up to case. -/
def Row.Unambiguous (row : Row) : Prop :=
  ∀ column ∈ documentColumns, ∀ name document,
    (loadDocument name (row.get column)).result = .ok document → document.Unambiguous

theorem Row.unambiguous_of_loads (hloads : ∀ column ∈ documentColumns, ∃ document : Value,
      (∀ name, (loadDocument name (row.get column)).result = .ok document) ∧
        document.Unambiguous) : row.Unambiguous := by
  intro column hcolumn name document hload
  obtain ⟨loaded, hloaded, hunambiguous⟩ := hloads column hcolumn
  obtain rfl := Except.ok.inj ((hloaded name).symm.trans hload)
  exact hunambiguous

/-- A change somewhere in one of the documents of a row. -/
inductive Row.Changed (change : Slot → Value → Value → Prop) (row row' : Row) : Prop where
  | intro {column : String} {p : Slot} {document document' : Value}
      (hslot : (column, p) ∈ documentSlots)
      (hothers : ∀ other, other ≠ column → row'.get other = row.get other)
      (hload : ∀ name, (loadDocument name (row.get column)).result = .ok document)
      (hload' : ∀ name, (loadDocument name (row'.get column)).result = .ok document')
      (hchanged : PhotoCatalog.Changed change p document document')

theorem mem_documentColumns_iff : column ∈ documentColumns ↔ ∃ p, (column, p) ∈ documentSlots := by
  have hcolumns : documentColumns = documentSlots.map Prod.fst := rfl
  rw [hcolumns, List.mem_map]
  constructor
  · rintro ⟨e, he, rfl⟩
    exact ⟨e.2, he⟩
  · rintro ⟨p, hp⟩
    exact ⟨(column, p), hp, rfl⟩

/-- Rows that differ in one of the columns that hold documents are read alike when this column is
loaded alike. -/
theorem Row.alike_of_column (hslot : (column, p) ∈ documentSlots)
    (hothers : ∀ other, other ≠ column → row'.get other = row.get other)
    (hload : LoadAlike p (row.get column) (row'.get column)) : row.Alike row' := by
  have hcolumns : (documentSlots.map Prod.fst).Nodup := by decide
  refine ⟨fun other hplain => hothers other ?_, fun e he => ?_⟩
  · rintro rfl
    exact hplain (mem_documentColumns_iff.mpr ⟨p, hslot⟩)
  · by_cases hcolumn : e.1 = column
    · obtain rfl := List.inj_on_of_nodup_map hcolumns he hslot hcolumn
      exact hload
    · rw [hothers e.1 hcolumn]
      exact fun name => .refl (Slot.Alike.refl e.2) _

/-- What is not noticed in a document is not noticed in a row. -/
theorem Unnoticed.changedRow {change : Slot → Value → Value → Prop} (hunnoticed : Unnoticed change)
    (hrow : row.Unambiguous) (hchanged : row.Changed change row') :
    row.Alike row' ∧ row'.Unambiguous := by
  obtain @⟨column, p, document, document', hslot, hothers, hload, hload', hchanged⟩ := hchanged
  have hcolumn := mem_documentColumns_iff.mpr ⟨p, hslot⟩
  obtain ⟨halike, hunambiguous⟩ :=
    hunnoticed.changed _ _ _ hchanged (hrow column hcolumn "" _ (hload ""))
  refine ⟨Row.alike_of_column hslot hothers fun name => ?_, ?_⟩
  · rw [hload, hload']
    exact .ok halike
  · intro other hother name loaded hloaded
    by_cases hsame : other = column
    · rw [hsame, hload', Except.ok.injEq] at hloaded
      exact hloaded ▸ hunambiguous
    · rw [hothers other hsame] at hloaded
      exact hrow other hother name loaded hloaded

/-- What no step changes is the same after any number of steps, when the steps also keep what they
ask for. -/
theorem eq_of_steps {α β : Type} {step : α → α → Prop} {Sound : α → Prop} {a b : α} (f : α → β)
    (hstep : ∀ a b, Sound a → step a b → f b = f a ∧ Sound b) (ha : Sound a)
    (hsteps : Relation.ReflTransGen step a b) : f b = f a := by
  have hboth : f b = f a ∧ Sound b := by
    induction hsteps with
    | refl => exact ⟨rfl, ha⟩
    | tail _ hlast ih =>
        obtain ⟨hsame, hsound⟩ := hstep _ _ ih.2 hlast
        exact ⟨hsame.trans ih.1, hsound⟩
  exact hboth.1

end PhotoCatalog
