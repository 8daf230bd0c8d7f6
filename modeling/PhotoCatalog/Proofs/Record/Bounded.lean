import PhotoCatalog.Proofs.Catalog.Documents
import PhotoCatalog.Proofs.Json.Bounded
import PhotoCatalog.Proofs.Record.Findings
import PhotoCatalog.Proofs.Record.RoundTrip
import PhotoCatalog.Proofs.Text.Utf8

/-!
Records of stored rows keep to the digit limit.  A database holds whole numbers of 64 bits, and texts
and bytes of less than two gigabytes; so no number of such a row, and no count of what its documents
list, comes near the limit, whatever thresholds and paths the record is given afterwards.
-/

namespace PhotoCatalog

open PhotoCatalog.Json PhotoCatalog.Number PhotoCatalog.Text

section

variable {α : Type} {convert : Value → Except Fault α} {place column : String} {v : Value} {a : α}
  {row : Row}

/-- What is usable has been converted. -/
theorem convert_of_usable (hread : (usable convert place v).result = .ok (some a)) :
    convert v = .ok a := by
  rw [usable.eq_def] at hread
  split at hread
  · cases hread
  · split at hread
    · rename_i hconvert
      cases hread
      exact hconvert
    · split at hread
      · cases hread
      · cases hread

/-- What has been merged comes from the document or from the column. -/
theorem convert_of_merged (hread : (merged convert place v column row).result = .ok (some a)) :
    convert v = .ok a ∨ convert (row.get column) = .ok a := by
  obtain ⟨found, hfound, hread⟩ := Reading.bind_result_eq_ok.mp hread
  cases found with
  | none => exact Or.inr (convert_of_usable hread)
  | some b =>
      cases hread
      exact Or.inl (convert_of_usable hfound)

end

/-- The length that every text and every sequence of bytes in a database stays below. -/
def storedLength : Nat := 2 ^ 31

/-- Values that a database stores. -/
def Value.IsStored : Value → Prop
  | .null | .float _ => True
  | .int n => Catalog.fits n = true
  | .text s => s.length < storedLength
  | .bytes data => data.length < storedLength
  | _ => False

instance : DecidablePred Value.IsStored
  | .null | .float _ => inferInstanceAs (Decidable True)
  | .int n => inferInstanceAs (Decidable (Catalog.fits n = true))
  | .text s => inferInstanceAs (Decidable (s.length < storedLength))
  | .bytes data => inferInstanceAs (Decidable (data.length < storedLength))
  | .bool _ | .date _ | .moment _ | .list _ | .map _ => inferInstanceAs (Decidable False)

/-- Rows of stored values. -/
def Row.IsStored (row : Row) : Prop := ∀ entry ∈ row, entry.2.IsStored

variable {row : Row} {v document childRows : Value} {n : Int}

/-- What holds of null and of whatever a column of a row is given holds of the column. -/
theorem Row.get_of_forall {Q : Value → Prop} {column : String} (hnull : Q .null)
    (hrow : ∀ entry ∈ row, entry.1 = column → Q entry.2) : Q (row.get column) := by
  rw [Row.get]
  cases hlookup : row.lookup column with
  | none => exact hnull
  | some value => exact hrow (column, value) (mem_of_lookup hlookup) rfl

theorem Row.IsStored.get (hrow : row.IsStored) (column : String) : (row.get column).IsStored :=
  Row.get_of_forall trivial fun entry hentry _ => hrow entry hentry

theorem storedLength_lt : 4 * storedLength + 4 ≤ 10 ^ maxDigits :=
  Nat.le_trans (show 4 * storedLength + 4 ≤ 10 ^ 10 by decide)
    (Nat.pow_le_pow_right (by decide) (by decide))

theorem Value.IsStored.short (hv : v.IsStored) : v.Short := by
  cases v with
  | int n => exact Catalog.short_of_fits hv
  | null | bool | float | text | bytes | date | moment => simp [Value.Short, Value.wholeNumbers]
  | list | map => exact absurd hv id

theorem readDocument_bounded {name text : String} (hlength : 2 * text.length + 2 ≤ 10 ^ maxDigits)
    (hread : (readDocument name text).result = .ok document) : document.Bounded := by
  rw [readDocument] at hread
  split at hread
  · cases hread
    exact .null
  · split at hread
    · rename_i hvalue
      cases hread
      exact read_bounded hlength hvalue
    · cases hread
      exact .null
    · cases hread

/-- The document of a stored value is bounded. -/
theorem loadDocument_bounded {name : String} (hv : v.IsStored)
    (hread : (loadDocument name v).result = .ok document) : document.Bounded := by
  have hlimit := storedLength_lt
  cases v with
  | text s =>
      have hlength : s.length < storedLength := hv
      exact readDocument_bounded (by omega) hread
  | bytes data =>
      have hlength : data.length < storedLength := hv
      have hdecoded := length_decodeFrom_le .idle data
      refine readDocument_bounded ?_ hread
      rw [decodeLossy, String.length_ofList]
      omega
  | null | bool | int | float | date | moment =>
      cases hread
      exact .null
  | list | map => exact absurd hv id

/-- Detections that keep to the limit, in their corners and in their number. -/
structure AreBounded (detections : List Detection) : Prop where
  length : detections.length < 10 ^ maxDigits
  corners : ∀ d ∈ detections, ∀ box ∈ d.box, ∀ n ∈ box, n.natAbs < 10 ^ maxDigits

/-- Records all of whose whole numbers keep to the limit. -/
structure Record.Bounded (r : Record) : Prop where
  width : ∀ n ∈ r.width, n.natAbs < 10 ^ maxDigits
  height : ∀ n ∈ r.height, n.natAbs < 10 ^ maxDigits
  metadata : ∀ field, (Value.ofOption field.kind.toValue (r.metadata.get field)).Short
  people : AreBounded r.people.detections
  peopleCount : r.people.count.natAbs < 10 ^ maxDigits
  objects : AreBounded r.objects.detections
  objectsCount : r.objects.count.natAbs < 10 ^ maxDigits
  labels : ∀ e ∈ r.objects.labelCounts, e.2.natAbs < 10 ^ maxDigits

section

variable {α : Type} {toValue : α → Value}

theorem short_ofOption {o : Option α} (ho : ∀ a ∈ o, (toValue a).Short) :
    (Value.ofOption toValue o).Short := by
  cases o with
  | none => exact Value.short_null
  | some a => exact ho a rfl

theorem short_map_list {items : List α} (hitems : ∀ a ∈ items, (toValue a).Short) :
    (Value.list (items.map toValue)).Short := by
  rw [Value.short_list]
  exact List.forall_mem_map.mpr hitems

end

theorem Metadata.short_document {m : Metadata}
    (hm : ∀ field, (Value.ofOption field.kind.toValue (m.get field)).Short) : m.document.Short := by
  rw [Metadata.document, Value.short_map]
  refine List.forall_mem_map.mpr fun group _ => ?_
  rw [Metadata.groupDocument, Value.short_map]
  exact List.forall_mem_map.mpr fun field _ => hm field

/-- Every field of a short document of metadata is short. -/
theorem Metadata.short_field {m : Metadata} (hm : m.document.Short) (field : MetadataField) :
    (Value.ofOption field.kind.toValue (m.get field)).Short := by
  rw [Metadata.document, Value.short_map] at hm
  have hgroup := List.forall_mem_map.mp hm field.shape.group field.shape.group.mem_all
  rw [Metadata.groupDocument, Value.short_map] at hgroup
  exact List.forall_mem_map.mp hgroup field field.mem_fields

theorem Description.short_document (d : Description) : d.document.Short := by
  have htext : ∀ o : Option String, (Value.ofOption .text o).Short :=
    fun o => short_ofOption fun s _ => Value.short_text s
  have hkeywords : (Value.ofTexts d.keywords).Short := short_map_list fun s _ => Value.short_text s
  simp only [Description.document, Value.short_entry]
  exact ⟨Value.short_bool _, Value.short_bool _, htext _, htext _, htext _, hkeywords, htext _,
    htext _, Value.short_empty⟩

theorem AreBounded.short_documents {detections : List Detection} (hbounded : AreBounded detections)
    (labelKey : String) : (Value.list (detections.map (Detection.document labelKey))).Short := by
  refine short_map_list fun d hd => ?_
  simp only [Detection.document, Value.short_entry]
  refine ⟨Value.short_float _, short_ofOption fun box hbox => ?_,
    short_ofOption fun s _ => Value.short_text s, Value.short_empty⟩
  exact short_map_list fun n hn => Value.short_int.mpr (hbounded.corners d hd box hbox n hn)

theorem Scene.short_document (s : Scene) : s.document.Short := by
  simp only [Scene.document, Value.short_entry]
  exact ⟨Value.short_text _, Value.short_float _, Value.short_float _, Value.short_bool _,
    Value.short_empty⟩

/-- The document of a bounded record is short. -/
theorem Record.Bounded.short_document {r : Record} (hr : r.Bounded) : r.document.Short := by
  have hsize : ∀ o : Option Int, (∀ n ∈ o, n.natAbs < 10 ^ maxDigits) →
      (Value.ofOption .int o).Short :=
    fun o ho => short_ofOption fun n hn => Value.short_int.mpr (ho n hn)
  have hpeople : r.people.document.Short := by
    simp only [People.document, Value.short_entry]
    exact ⟨Value.short_int.mpr hr.peopleCount, short_map_list fun s _ => Value.short_text s,
      hr.people.short_documents _, Value.short_bool _, Value.short_empty⟩
  have hobjects : r.objects.document.Short := by
    simp only [Objects.document, Value.short_entry]
    refine ⟨Value.short_int.mpr hr.objectsCount, hr.objects.short_documents _, ?_,
      Value.short_empty⟩
    rw [Value.short_map]
    exact List.forall_mem_map.mpr fun e he => Value.short_int.mpr (hr.labels e he)
  simp only [Record.document, Value.short_entry]
  exact ⟨Value.short_text _, hsize _ hr.width, hsize _ hr.height,
    Metadata.short_document hr.metadata, r.description.short_document, hpeople, hobjects,
    r.scene.short_document, Value.short_empty⟩

/-- A count merged from short values keeps to the limit. -/
theorem merged_lt {place column : String} (hv : v.Short) (hcolumn : (row.get column).Short)
    (hread : (merged Value.toCount place v column row).result = .ok (some n)) :
    n.natAbs < 10 ^ maxDigits := by
  rcases convert_of_merged hread with hconvert | hconvert
  · exact Value.toCount_lt hv hconvert
  · exact Value.toCount_lt hcolumn hconvert

theorem FieldKind.short_of_read (kind : FieldKind) {a : kind.Carrier} (hv : v.Short)
    (hread : kind.read v = .ok a) : (kind.toValue a).Short := by
  cases kind with
  | text => exact Value.short_text a
  | real => exact Value.short_float a
  | whole => exact Value.short_int.mpr (Value.toCount_lt hv hread)

theorem Metadata.read_short {m : Metadata} (hdocument : document.Bounded) (hrow : row.IsStored)
    (hread : (Metadata.read document row).result = .ok m) (field : MetadataField) :
    (Value.ofOption field.kind.toValue (m.get field)).Short := by
  have hfield := Metadata.read_field hread field
  refine short_ofOption fun a ha => ?_
  rw [ha] at hfield
  have hinner := ((hdocument.entry field.shape.group.key).entry field.shape.key).short
  rcases convert_of_merged hfield with hconvert | hconvert
  · exact field.kind.short_of_read hinner hconvert
  · exact field.kind.short_of_read (hrow.get _).short hconvert

theorem cornersOf_short {item : Value} (hitem : item.Bounded) : ∀ v ∈ cornersOf item, v.Short := by
  have hsingle : ∀ v ∈ ["x_min", "y_min", "x_max", "y_max"].map item.entry, v.Short :=
    List.forall_mem_map.mpr fun key _ => (hitem.entry key).short
  have hbox := hitem.entry "BBox"
  rw [cornersOf]
  split
  · rename_i corners hcorners
    rw [hcorners] at hbox
    split
    · exact Value.short_list.mp hbox.short
    · exact hsingle
  · exact hsingle

theorem readBox_lt {item : Value} {box : List Int} (hitem : item.Bounded)
    (hread : (readBox item).result = .ok (some box)) : ∀ n ∈ box, n.natAbs < 10 ^ maxDigits := by
  rw [readBox] at hread
  split at hread
  · cases hread
  · split at hread
    · rename_i corners hcorners
      obtain rfl : corners = box := by
        cases hread
        rfl
      intro n hn
      have hmem : Except.ok n ∈ (cornersOf item).map Value.toInt := by
        rw [mapM_eq_ok.mp hcorners]
        exact List.mem_map_of_mem hn
      obtain ⟨v, hv, hconvert⟩ := List.mem_map.mp hmem
      exact Value.toInt_lt (cornersOf_short hitem v hv) hconvert
    · split at hread <;> cases hread

theorem Detection.read_lt {label item : Value} {d : Detection} (hitem : item.Bounded)
    (hread : (Detection.read label item).result = .ok d) :
    ∀ box ∈ d.box, ∀ n ∈ box, n.natAbs < 10 ^ maxDigits := by
  obtain ⟨confidence, -, hread⟩ := Reading.bind_result_eq_ok.mp hread
  obtain ⟨found, hfound, hread⟩ := Reading.bind_result_eq_ok.mp hread
  cases hread
  rintro box rfl
  exact readBox_lt hitem hfound

/-- Readers of detections that look at nothing but the item and a label. -/
def ReadsDetection (read : Value → Reading Detection) : Prop :=
  ∀ item, ∃ label, read item = Detection.read label item

theorem readsDetection_readFace : ReadsDetection readFace := fun _ => ⟨_, rfl⟩

theorem readsDetection_readObject : ReadsDetection readObject := fun _ => ⟨_, rfl⟩

variable {read : Value → Reading Detection} {detections : List Detection}

theorem readItems_lt (hreads : ReadsDetection read) {items : List Value}
    (hitems : ∀ v ∈ items, v.Bounded) (hread : (readItems read items).result = .ok detections) :
    detections.length ≤ items.length ∧
      ∀ d ∈ detections, ∀ box ∈ d.box, ∀ n ∈ box, n.natAbs < 10 ^ maxDigits := by
  induction items generalizing detections with
  | nil =>
      cases hread
      exact ⟨Nat.le_refl 0, List.forall_mem_nil _⟩
  | cons item items ih =>
      obtain ⟨hitem, hitems⟩ := List.forall_mem_cons.mp hitems
      rw [readItems] at hread
      split at hread
      · obtain ⟨first, hfirst, hread⟩ := Reading.bind_result_eq_ok.mp hread
        obtain ⟨rest, hrest, hread⟩ := Reading.bind_result_eq_ok.mp hread
        obtain ⟨label, hlabel⟩ := hreads item
        obtain ⟨hlength, hcorners⟩ := ih hitems hrest
        cases hread
        exact ⟨Nat.succ_le_succ hlength,
          List.forall_mem_cons.mpr ⟨Detection.read_lt hitem (hlabel ▸ hfirst), hcorners⟩⟩
      · obtain ⟨hlength, hcorners⟩ := ih hitems hread
        exact ⟨Nat.le_succ_of_le hlength, hcorners⟩

theorem readItems_bounded (hreads : ReadsDetection read) {items : List Value}
    (hitems : (Value.list items).Bounded) (hread : (readItems read items).result = .ok detections) :
    AreBounded detections := by
  cases hitems with
  | list hitems hlimit =>
      obtain ⟨hlength, hcorners⟩ := readItems_lt hreads hitems hread
      exact ⟨Nat.lt_of_le_of_lt hlength hlimit, hcorners⟩

theorem readDetections_bounded (hreads : ReadsDetection read) (hdocument : document.Bounded)
    (hchildRows : childRows.Bounded)
    (hread : (readDetections read document childRows).result = .ok detections) :
    AreBounded detections := by
  unfold readDetections at hread
  split at hread
  · rename_i items hitems
    exact readItems_bounded hreads (hitems ▸ hdocument.entry "Predictions") hread
  · exact readItems_bounded hreads hchildRows hread
  · cases hread
    exact ⟨Nat.pow_pos (by decide), List.forall_mem_nil _⟩

theorem getD_length_lt {o : Option Int} (ho : ∀ n ∈ o, n.natAbs < 10 ^ maxDigits)
    (hdetections : AreBounded detections) :
    (o.getD detections.length).natAbs < 10 ^ maxDigits := by
  cases o with
  | none => exact hdetections.length
  | some n => exact ho n rfl

theorem People.read_bounded {p : People} (hdocument : document.Bounded) (hrow : row.IsStored)
    (hchildRows : childRows.Bounded) (hread : (People.read document row childRows).result = .ok p) :
    AreBounded p.detections ∧ p.count.natAbs < 10 ^ maxDigits := by
  rw [People.read, Reading.bind_result_eq_ok] at hread
  obtain ⟨detections, hdetections, hread⟩ := hread
  have hbounded := readDetections_bounded readsDetection_readFace hdocument hchildRows hdetections
  have hcounted : ∀ count, (merged Value.toCount "People.Count" (document.entry "Count")
      "people_count" row).result = .ok count → ∀ n ∈ count, n.natAbs < 10 ^ maxDigits := by
    rintro count hcount n rfl
    exact merged_lt (hdocument.entry "Count").short (hrow.get _).short hcount
  dsimp only at hread
  split at hread
  -- The faces come from the document or from the detections; the count does not depend on them.
  all_goals
    obtain ⟨faces, -, hread⟩ := Reading.bind_result_eq_ok.mp hread
    obtain ⟨count, hcount, hread⟩ := Reading.bind_result_eq_ok.mp hread
    obtain ⟨success, -, hread⟩ := Reading.bind_result_eq_ok.mp hread
    cases hread
    exact ⟨hbounded, getD_length_lt (hcounted count hcount) hbounded⟩

theorem readCounts_lt {entries : List (String × Value)} {before counts : List (String × Int)}
    (hentries : ∀ e ∈ entries, e.2.Bounded) (hbefore : ∀ e ∈ before, e.2.natAbs < 10 ^ maxDigits)
    (hread : (readCounts before entries).result = .ok counts) :
    ∀ e ∈ counts, e.2.natAbs < 10 ^ maxDigits := by
  induction entries generalizing before with
  | nil =>
      cases hread
      exact hbefore
  | cons entry entries ih =>
      obtain ⟨hentry, hentries⟩ := List.forall_mem_cons.mp hentries
      rw [readCounts, Reading.bind_result_eq_ok] at hread
      obtain ⟨found, hfound, hread⟩ := hread
      cases found with
      | none => exact ih hentries hbefore hread
      | some n =>
          have hn := Value.toCount_lt hentry.short (convert_of_usable hfound)
          refine ih hentries (fun e he => ?_) hread
          rcases mem_setEntry he with rfl | he
          · exact hn
          · exact hbefore e he

theorem AreBounded.tally_lt (hdetections : AreBounded detections) :
    ∀ e ∈ tally (labelsOf detections), e.2.natAbs < 10 ^ maxDigits := fun e he =>
  calc e.2.natAbs ≤ (labelsOf detections).length := tally_le _ e he
    _ ≤ detections.length := List.length_filterMap_le _ _
    _ < 10 ^ maxDigits := hdetections.length

theorem Objects.read_bounded {o : Objects} (hdocument : document.Bounded) (hrow : row.IsStored)
    (hchildRows : childRows.Bounded)
    (hread : (Objects.read document row childRows).result = .ok o) :
    AreBounded o.detections ∧ o.count.natAbs < 10 ^ maxDigits ∧
      ∀ e ∈ o.labelCounts, e.2.natAbs < 10 ^ maxDigits := by
  rw [Objects.read, Reading.bind_result_eq_ok] at hread
  obtain ⟨detections, hdetections, hread⟩ := hread
  obtain ⟨count, hcount, hread⟩ := Reading.bind_result_eq_ok.mp hread
  have hbounded := readDetections_bounded readsDetection_readObject hdocument hchildRows hdetections
  have hcounted : ∀ n ∈ count, n.natAbs < 10 ^ maxDigits := by
    rintro n rfl
    exact merged_lt (hdocument.entry "Count").short (hrow.get _).short hcount
  have hlabels := hdocument.entry "LabelCounts"
  dsimp only at hread
  split at hread
  · rename_i entries hentries
    obtain ⟨counts, hcounts, hread⟩ := Reading.bind_result_eq_ok.mp hread
    rw [hentries] at hlabels
    cases hlabels with
    | map hbelow =>
        cases hread
        exact ⟨hbounded, getD_length_lt hcounted hbounded,
          readCounts_lt hbelow (List.forall_mem_nil _) hcounts⟩
  · cases hread
    exact ⟨hbounded, getD_length_lt hcounted hbounded, hbounded.tally_lt⟩

/-- The record of a stored row is bounded. -/
theorem Record.ofRow_bounded {r : Record} (hrow : row.IsStored)
    (hread : (Record.ofRow row).result = .ok r) : r.Bounded := by
  obtain ⟨f, hmake⟩ := Record.ofRow_eq_ok_iff.mp hread
  have hbounded : ∀ e ∈ f.documents, e.2.Bounded :=
    fun e he => loadDocument_bounded (hrow.get e.1) (hmake.loads e he "")
  simp only [Findings.documents, List.forall_mem_cons] at hbounded
  obtain ⟨hmetadata, -, hpeople, hpeopleRows, hobjects, hobjectRows, -⟩ := hbounded
  have hfields := Metadata.read_short hmetadata hrow hmake.metadata
  obtain ⟨hfaces, hpeopleCount⟩ := People.read_bounded hpeople hrow hpeopleRows hmake.people
  obtain ⟨hdetections, hobjectsCount, hlabels⟩ :=
    Objects.read_bounded hobjects hrow hobjectRows hmake.objects
  have hsize : ∀ (column place : String) (o fallback : Option Int),
      (usable Value.toCount place (row.get column)).result = .ok o →
      (Value.ofOption .int fallback).Short →
        ∀ n ∈ o.orElse fun _ => fallback, n.natAbs < 10 ^ maxDigits := by
    rintro column place (_ | n) fallback hread hfallback m hm
    · change fallback = some m at hm
      rw [hm] at hfallback
      exact Value.short_int.mp hfallback
    · cases hm
      exact Value.toCount_lt (hrow.get column).short (convert_of_usable hread)
  exact {
    width := hmake.width ▸ hsize _ _ _ _ hmake.widthFound (hfields .width)
    height := hmake.height ▸ hsize _ _ _ _ hmake.heightFound (hfields .height)
    metadata := hfields
    people := hfaces
    peopleCount := hpeopleCount
    objects := hdetections
    objectsCount := hobjectsCount
    labels := hlabels }

theorem AreBounded.confident (hdetections : AreBounded detections) (threshold : Amount) :
    AreBounded (confident threshold detections) :=
  ⟨Nat.lt_of_le_of_lt (List.length_filter_le _ _) hdetections.length,
    fun d hd => hdetections.corners d (List.mem_of_mem_filter hd)⟩

theorem Record.Bounded.restrict {r : Record} (hr : r.Bounded) (threshold : Option Amount) :
    (r.restrict threshold).Bounded := by
  cases threshold with
  | none => exact hr
  | some t =>
      have hpeople := hr.people.confident t
      have hobjects := hr.objects.confident t
      exact ⟨hr.width, hr.height, hr.metadata, hpeople, hpeople.length, hobjects, hobjects.length,
        hobjects.tally_lt⟩

theorem Record.Bounded.withPath {r : Record} (hr : r.Bounded) (path : String) :
    { r with path := path }.Bounded :=
  ⟨hr.width, hr.height, hr.metadata, hr.people, hr.peopleCount, hr.objects, hr.objectsCount,
    hr.labels⟩

end PhotoCatalog
