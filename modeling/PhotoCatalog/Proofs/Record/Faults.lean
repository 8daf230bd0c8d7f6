import PhotoCatalog.Proofs.Record.Bounded
import PhotoCatalog.Proofs.Value.Fits

/-!
How the reading of a record fails.  A misfit is passed over with a warning wherever it stands, so only
values that no conversion copes with, and documents beyond the limits of the reader, end the reading
of a row or of a document.
-/

namespace PhotoCatalog

open PhotoCatalog.Number PhotoCatalog.Text

variable {P : Fault → Prop}

section

variable {α : Type} {convert : Value → Except Fault α} {place column : String} {v : Value}
  {row : Row}

/-- A value that is converted for its place fails only where its conversion finds no misfit. -/
theorem usable_fails (hconvert : FailsOnly (IsMisfitOr P) (convert v)) :
    FailsOnly P (usable convert place v).result := by
  rw [usable.eq_def]
  split
  · exact failsOnly_ok none
  · split
    · exact failsOnly_ok _
    · rename_i fault hfault
      split
      · exact failsOnly_ok none
      · rename_i hmisfit
        exact failsOnly_error.mpr ((hconvert fault hfault).resolve_left hmisfit)

/-- A fault that is no misfit ends the reading. -/
theorem usable_eq_error {fault : Fault} (hvalue : v ≠ .null) (hfault : convert v = .error fault)
    (hlimit : fault.isMisfit = false) : (usable convert place v).result = .error fault := by
  rw [usable.eq_def]
  split
  · contradiction
  · rw [hfault]
    dsimp only
    rw [hlimit]
    rfl

theorem merged_fails (hdocument : FailsOnly (IsMisfitOr P) (convert v))
    (hcolumn : FailsOnly (IsMisfitOr P) (convert (row.get column))) :
    FailsOnly P (merged convert place v column row).result := by
  refine Reading.failsOnly_bind (usable_fails hdocument) fun found _ => ?_
  cases found with
  | none => exact usable_fails hcolumn
  | some a => exact failsOnly_ok (some a)

end

/-- The columns that hold documents. -/
def documentColumns : List String := [
  "metadata_json", "description_json", "people_json", peopleRowsColumn, "objects_json",
  objectRowsColumn, "scenes_json"]

/-- Whether the plain columns of a row are converted, at worst with certain faults.  The confidence
is asked only where there is a scene. -/
structure Row.Converts (P : Fault → Prop) (row : Row) : Prop where
  fields (field : MetadataField) :
    FailsOnly (IsMisfitOr P) (field.kind.read (row.get field.shape.column))
  peopleCount : FailsOnly (IsMisfitOr P) (row.get "people_count").toCount
  objectsCount : FailsOnly (IsMisfitOr P) (row.get "objects_count").toCount
  keywords : FailsOnly (IsMisfitOr P) (row.get "keywords").toTexts
  confidence : row.LacksDocument "scenes_json" ∧ row.get "scene_label" = .null ∨
    FailsOnly (IsMisfitOr P) (row.get "scene_confidence").toFloat

/-- Whether everything in a document is converted, at worst with certain faults. -/
abbrev Value.AllConvert (P : Fault → Prop) (document : Value) : Prop :=
  document.Throughout (Value.Converts P)

theorem Value.Throughout.entry_converts {document : Value} (hdocument : document.AllConvert P)
    (key : String) : (document.entry key).AllConvert P :=
  hdocument.entry Value.converts_null key

variable {document childRows item : Value} {row : Row}

theorem Metadata.read_fails (hdocument : document.AllConvert P) (hrow : row.Converts P) :
    FailsOnly P (Metadata.read document row).result := by
  have hfield : ∀ field : MetadataField,
      FailsOnly P (field.read (document.entry field.shape.group.key) row).result := by
    intro field
    have hentry := (hdocument.entry_converts field.shape.group.key).entry_converts field.shape.key
    exact merged_fails (hentry.self.read field.kind) (hrow.fields field)
  refine Reading.failsOnly_bind (Reading.failsOnly_forM fun field _ => ?_) fun _ _ => failsOnly_ok _
  exact Reading.failsOnly_bind (hfield field) fun _ _ => failsOnly_ok _

theorem readTexts_fails {v : Value} (hv : FailsOnly (IsMisfitOr P) v.toTexts) :
    FailsOnly P (readTexts v).result := by
  rw [readTexts.eq_def]
  split
  · exact failsOnly_ok []
  · split
    · exact failsOnly_ok _
    · rename_i fault hfault
      split
      · exact failsOnly_ok []
      · rename_i hmisfit
        exact failsOnly_error.mpr ((hv fault hfault).resolve_left hmisfit)

theorem Description.read_fails (hdocument : document.AllConvert P) (hrow : row.Converts P) :
    FailsOnly P (Description.read document row).result := by
  have hbool : ∀ place key column, FailsOnly P
      (merged Value.toBool place (document.entry key) column row).result :=
    fun _ _ _ => merged_fails (Value.toBool_fails _) (Value.toBool_fails _)
  have htext : ∀ place key column, FailsOnly P
      (merged Value.toText place (document.entry key) column row).result :=
    fun _ _ _ => merged_fails (Value.toText_fails _) (Value.toText_fails _)
  have hkeywords : FailsOnly (IsMisfitOr P)
      ((document.entry "Keywords").orElse (row.get "keywords")).toTexts := by
    rw [Value.orElse]
    split
    · exact hrow.keywords
    · exact (hdocument.entry_converts "Keywords").self.toTexts
  refine Reading.failsOnly_bind (hbool _ _ _) fun _ _ => ?_
  refine Reading.failsOnly_bind (hbool _ _ _) fun _ _ => ?_
  refine Reading.failsOnly_bind (htext _ _ _) fun _ _ => ?_
  refine Reading.failsOnly_bind (htext _ _ _) fun _ _ => ?_
  refine Reading.failsOnly_bind (htext _ _ _) fun _ _ => ?_
  refine Reading.failsOnly_bind (htext _ _ _) fun _ _ => ?_
  refine Reading.failsOnly_bind (htext _ _ _) fun _ _ => ?_
  exact Reading.failsOnly_bind (readTexts_fails hkeywords) fun _ _ => failsOnly_ok _

theorem cornersOf_converts (hitem : item.AllConvert P) : ∀ v ∈ cornersOf item, v.Converts P := by
  have hsingle : ∀ v ∈ ["x_min", "y_min", "x_max", "y_max"].map item.entry, v.Converts P :=
    List.forall_mem_map.mpr fun key _ => (hitem.entry_converts key).self
  have hbox := hitem.entry_converts "BBox"
  rw [cornersOf]
  split
  · rename_i corners hcorners
    rw [hcorners] at hbox
    split
    · exact fun v hv => (hbox.items v hv).self
    · exact hsingle
  · exact hsingle

theorem readBox_fails (hitem : item.AllConvert P) : FailsOnly P (readBox item).result := by
  have hcorners : FailsOnly (IsMisfitOr P) ((cornersOf item).mapM Value.toInt) :=
    failsOnly_mapM fun v hv => (cornersOf_converts hitem v hv).toInt
  rw [readBox]
  split
  · exact failsOnly_ok none
  · split
    · exact failsOnly_ok _
    · rename_i fault hfault
      split
      · exact failsOnly_ok none
      · rename_i hmisfit
        exact failsOnly_error.mpr ((hcorners fault hfault).resolve_left hmisfit)

theorem Detection.read_fails (label : Value) (hitem : item.AllConvert P) :
    FailsOnly P (Detection.read label item).result := by
  have hconfidence := (hitem.entry_converts "Confidence").self.toFloat
  refine Reading.failsOnly_bind (usable_fails hconfidence) fun _ _ => ?_
  exact Reading.failsOnly_bind (readBox_fails hitem) fun _ _ => failsOnly_ok _

variable {read : Value → Reading Detection}

theorem readItems_fails (hreads : ReadsDetection read) {items : List Value}
    (hitems : ∀ item ∈ items, item.AllConvert P) : FailsOnly P (readItems read items).result := by
  induction items with
  | nil => exact failsOnly_ok []
  | cons item items ih =>
      obtain ⟨hitem, hrest⟩ := List.forall_mem_cons.mp hitems
      obtain ⟨label, hlabel⟩ := hreads item
      rw [readItems]
      split
      · refine Reading.failsOnly_bind (hlabel ▸ Detection.read_fails label hitem) fun _ _ => ?_
        exact Reading.failsOnly_bind (ih hrest) fun _ _ => failsOnly_ok _
      · exact ih hrest

theorem readDetections_fails (hreads : ReadsDetection read) (hdocument : document.AllConvert P)
    (hchildRows : childRows.AllConvert P) :
    FailsOnly P (readDetections read document childRows).result := by
  unfold readDetections
  split
  · rename_i items hitems
    have hlisted := hdocument.entry_converts "Predictions"
    exact readItems_fails hreads (hitems ▸ hlisted).items
  · exact readItems_fails hreads hchildRows.items
  · exact failsOnly_ok []

theorem People.read_fails (hdocument : document.AllConvert P) (hrow : row.Converts P)
    (hchildRows : childRows.AllConvert P) :
    FailsOnly P (People.read document row childRows).result := by
  have hdetections := readDetections_fails readsDetection_readFace hdocument hchildRows
  have hcount : FailsOnly P
      (merged Value.toCount "People.Count" (document.entry "Count") "people_count" row).result :=
    merged_fails (hdocument.entry_converts "Count").self.toCount hrow.peopleCount
  refine Reading.failsOnly_bind hdetections fun _ _ => ?_
  dsimp only
  split
  all_goals
    refine Reading.failsOnly_bind ?_ fun _ _ => Reading.failsOnly_bind hcount fun _ _ =>
      Reading.failsOnly_bind (usable_fails (Value.toBool_fails _)) fun _ _ => failsOnly_ok _
  · exact failsOnly_ok _
  · exact readTexts_fails (hdocument.entry_converts "Faces").self.toTexts

theorem readCounts_fails {entries : List (String × Value)} (counts : List (String × Int))
    (hentries : ∀ e ∈ entries, e.2.AllConvert P) :
    FailsOnly P (readCounts counts entries).result := by
  induction entries generalizing counts with
  | nil => exact failsOnly_ok counts
  | cons entry entries ih =>
      obtain ⟨hentry, hrest⟩ := List.forall_mem_cons.mp hentries
      refine Reading.failsOnly_bind (usable_fails hentry.self.toCount) fun found _ => ?_
      cases found with
      | none => exact ih counts hrest
      | some n => exact ih _ hrest

theorem Objects.read_fails (hdocument : document.AllConvert P) (hrow : row.Converts P)
    (hchildRows : childRows.AllConvert P) :
    FailsOnly P (Objects.read document row childRows).result := by
  have hdetections := readDetections_fails readsDetection_readObject hdocument hchildRows
  have hcount : FailsOnly P
      (merged Value.toCount "Objects.Count" (document.entry "Count") "objects_count" row).result :=
    merged_fails (hdocument.entry_converts "Count").self.toCount hrow.objectsCount
  have hlabels := hdocument.entry_converts "LabelCounts"
  refine Reading.failsOnly_bind hdetections fun _ _ => ?_
  refine Reading.failsOnly_bind hcount fun _ _ => ?_
  split
  · rename_i entries hentries
    rw [hentries] at hlabels
    exact Reading.failsOnly_bind (readCounts_fails [] hlabels.entries) fun _ _ => failsOnly_ok _
  · exact failsOnly_ok _

/-- Without a label there is no scene, whatever else is told of it. -/
theorem Scene.read_null (hlabel : row.get "scene_label" = .null) :
    (Scene.read .null row).result = .ok .unknown := by
  rw [Scene.read, merged, hlabel]
  rfl

theorem Scene.read_fails (hdocument : document.AllConvert P)
    (hconfidence : document = .null ∧ row.get "scene_label" = .null ∨
      FailsOnly (IsMisfitOr P) (row.get "scene_confidence").toFloat) :
    FailsOnly P (Scene.read document row).result := by
  rcases hconfidence with ⟨rfl, hlabel⟩ | hconfidence
  · rw [Scene.read_null hlabel]
    exact failsOnly_ok _
  refine Reading.failsOnly_bind (merged_fails (Value.toText_fails _) (Value.toText_fails _))
    fun label _ => ?_
  cases label with
  | none => exact failsOnly_ok _
  | some label =>
      refine Reading.failsOnly_bind
        (merged_fails (hdocument.entry_converts "Confidence").self.toFloat hconfidence) fun _ _ => ?_
      refine Reading.failsOnly_bind
        (usable_fails (hdocument.entry_converts "ConfidencePercentage").self.toFloat) fun _ _ => ?_
      exact Reading.failsOnly_bind (usable_fails (Value.toBool_fails _)) fun _ _ => failsOnly_ok _

/-- The reading of a row fails at worst like its conversions and the loading of its documents. -/
theorem Record.ofRow_fails (hrow : row.Converts P)
    (hload : ∀ column ∈ documentColumns, ∀ name,
      FailsOnly P (loadDocument name (row.get column)).result)
    (hloaded : ∀ column ∈ documentColumns, ∀ name document,
      (loadDocument name (row.get column)).result = .ok document → document.AllConvert P) :
    FailsOnly P (Record.ofRow row).result := by
  refine Reading.failsOnly_bind (hload "metadata_json" (by decide) _) fun document hdocument => ?_
  refine Reading.failsOnly_bind
    (Metadata.read_fails (hloaded _ (by decide) _ _ hdocument) hrow) fun _ _ => ?_
  refine Reading.failsOnly_bind (hload "description_json" (by decide) _) fun document hdocument => ?_
  refine Reading.failsOnly_bind
    (Description.read_fails (hloaded _ (by decide) _ _ hdocument) hrow) fun _ _ => ?_
  refine Reading.failsOnly_bind (hload "people_json" (by decide) _) fun document hdocument => ?_
  refine Reading.failsOnly_bind (hload peopleRowsColumn (by decide) _) fun childRows hchildRows => ?_
  refine Reading.failsOnly_bind (People.read_fails (hloaded _ (by decide) _ _ hdocument) hrow
    (hloaded _ (by decide) _ _ hchildRows)) fun _ _ => ?_
  refine Reading.failsOnly_bind (hload "objects_json" (by decide) _) fun document hdocument => ?_
  refine Reading.failsOnly_bind (hload objectRowsColumn (by decide) _) fun childRows hchildRows => ?_
  refine Reading.failsOnly_bind (Objects.read_fails (hloaded _ (by decide) _ _ hdocument) hrow
    (hloaded _ (by decide) _ _ hchildRows)) fun _ _ => ?_
  refine Reading.failsOnly_bind (hload "scenes_json" (by decide) _) fun document hdocument => ?_
  have hscene : document = .null ∧ row.get "scene_label" = .null ∨
      FailsOnly (IsMisfitOr P) (row.get "scene_confidence").toFloat :=
    hrow.confidence.imp_left fun ⟨hlacks, hlabel⟩ =>
      ⟨Except.ok.inj (hdocument.symm.trans (hlacks _)), hlabel⟩
  refine Reading.failsOnly_bind
    (Scene.read_fails (hloaded _ (by decide) _ _ hdocument) hscene) fun _ _ => ?_
  refine Reading.failsOnly_bind (usable_fails (hrow.fields .width)) fun _ _ => ?_
  exact Reading.failsOnly_bind (usable_fails (hrow.fields .height)) fun _ _ => failsOnly_ok _

/-- The reading of a document fails at worst like its conversions. -/
theorem Record.ofDocument_fails (hdocument : document.AllConvert P) :
    FailsOnly P (Record.ofDocument document).result := by
  have hnull : Value.Converts P .null := Value.converts_null
  have hrow : Row.Converts P [] :=
    ⟨fun field => hnull.read field.kind, hnull.toCount, hnull.toCount, hnull.toTexts,
      Or.inr hnull.toFloat⟩
  have hchildRows : Value.AllConvert P .null := .null Value.converts_null
  have hpart : ∀ key, (document.entry key).AllConvert P := hdocument.entry_converts
  refine Reading.failsOnly_bind (Metadata.read_fails (hpart _) hrow) fun _ _ => ?_
  refine Reading.failsOnly_bind (usable_fails (hpart "Width").self.toCount) fun _ _ => ?_
  refine Reading.failsOnly_bind (usable_fails (hpart "Height").self.toCount) fun _ _ => ?_
  refine Reading.failsOnly_bind (Description.read_fails (hpart _) hrow) fun _ _ => ?_
  refine Reading.failsOnly_bind (People.read_fails (hpart _) hrow hchildRows) fun _ _ => ?_
  refine Reading.failsOnly_bind (Objects.read_fails (hpart _) hrow hchildRows) fun _ _ => ?_
  exact Reading.failsOnly_bind (Scene.read_fails (hpart _) (Or.inr hnull.toFloat)) fun _ _ =>
    failsOnly_ok _

/-- Faults that go beyond a limit: of the numbers, of the digits that are read, or of nesting. -/
def IsLimitFault (fault : Fault) : Prop :=
  fault = .outOfRange ∨ fault = .malformedNumber ∨ fault = .nestedTooDeeply

theorem Value.converts_limit : ∀ v : Value, v.Converts IsLimitFault :=
  Value.converts_of_limits (Or.inl rfl) (Or.inr (Or.inr rfl))

theorem Row.converts_limit (row : Row) : row.Converts IsLimitFault where
  fields field := (row.get field.shape.column).converts_limit.read field.kind
  peopleCount := (row.get "people_count").converts_limit.toCount
  objectsCount := (row.get "objects_count").converts_limit.toCount
  keywords := (row.get "keywords").converts_limit.toTexts
  confidence := Or.inr (row.get "scene_confidence").converts_limit.toFloat

theorem readDocument_fails (name text : String) :
    FailsOnly IsLimitFault (readDocument name text).result := by
  rw [readDocument]
  split
  · exact failsOnly_ok _
  · split
    · exact failsOnly_ok _
    · exact failsOnly_ok _
    · rename_i fault hmalformed hfault
      rw [Reading.result_fail, failsOnly_error]
      exact (Json.read_fails text fault hfault).imp_left fun h => absurd h hmalformed

theorem loadDocument_fails (name : String) (v : Value) :
    FailsOnly IsLimitFault (loadDocument name v).result := by
  cases v with
  | text s => exact readDocument_fails name s
  | bytes data => exact readDocument_fails name (decodeLossy data)
  | null | bool | int | float | date | moment | list | map => exact failsOnly_ok _

/-- Documents in which every value fits. -/
def Value.Tame (document : Value) : Prop := document.Throughout Value.Fits

/-- Texts that spell a tame document, or none. -/
def SpellsTame (text : String) : Prop :=
  match Json.read text with
  | .ok document => document.Tame
  | .error fault => fault = .malformedDocument

/-- Values that hold a tame document, or none. -/
def Value.DeliversTame : Value → Prop
  | .text s => SpellsTame s
  | .bytes data => SpellsTame (decodeLossy data)
  | v => v.Tame

/-- Whether the values of the plain columns fit. -/
structure Row.ColumnsFit (row : Row) : Prop where
  fields (field : MetadataField) : field.kind.Fits (row.get field.shape.column)
  peopleCount : (row.get "people_count").FitsWhole
  objectsCount : (row.get "objects_count").FitsWhole
  keywords : (row.get "keywords").FitsTexts
  confidence : row.LacksDocument "scenes_json" ∧ row.get "scene_label" = .null ∨
    (row.get "scene_confidence").FitsReal

/-- Rows in which every value fits its column, and whose documents are tame. -/
structure Row.Tame (row : Row) : Prop where
  columns : row.ColumnsFit
  documents : ∀ column ∈ documentColumns, (row.get column).DeliversTame

theorem Row.ColumnsFit.converts (hfit : row.ColumnsFit) : row.Converts P where
  fields field := (hfit.fields field).read
  peopleCount := hfit.peopleCount.toCount
  objectsCount := hfit.objectsCount.toCount
  keywords := hfit.keywords.toTexts
  confidence := hfit.confidence.imp_right Value.FitsReal.toFloat

theorem Value.tame_null : Value.Tame .null := .null Value.fits_null

theorem readDocument_of_spellsTame (name : String) {text : String} (htext : SpellsTame text) :
    ∃ document, (readDocument name text).result = .ok document ∧ document.Tame := by
  rw [SpellsTame] at htext
  rw [readDocument]
  split
  · exact ⟨.null, rfl, Value.tame_null⟩
  · split at htext
    · rename_i document hread
      rw [hread]
      exact ⟨document, rfl, htext⟩
    · rename_i fault hread
      rw [hread, htext]
      exact ⟨.null, rfl, Value.tame_null⟩

/-- A tame document is loaded as one. -/
theorem loadDocument_of_deliversTame (name : String) {v : Value} (hv : v.DeliversTame) :
    ∃ document, (loadDocument name v).result = .ok document ∧ document.Tame := by
  cases v with
  | text s => exact readDocument_of_spellsTame name hv
  | bytes data => exact readDocument_of_spellsTame name hv
  | list items => exact ⟨_, rfl, hv⟩
  | map entries => exact ⟨_, rfl, hv⟩
  | null | bool | int | float | date | moment => exact ⟨.null, rfl, Value.tame_null⟩

theorem Value.Tame.allConvert (hdocument : document.Tame) : document.AllConvert P :=
  hdocument.mono fun _ hv => hv.converts

section

variable {place : String} {v : Value}

theorem FieldKind.fits_of_usable {kind : FieldKind} {o : Option kind.Carrier}
    (hread : (usable kind.read place v).result = .ok o) : kind.Fits v := by
  by_contra hfits
  have hvalue : v ≠ .null := by
    rintro rfl
    cases kind <;> exact hfits trivial
  have hfault : kind.read v = .error .outOfRange := by
    cases kind with
    | text => exact absurd trivial hfits
    | real => exact Value.toFloat_eq_outOfRange_iff.mpr hfits
    | whole => exact Value.toCount_eq_outOfRange_iff.mpr hfits
  rw [usable_eq_error hvalue hfault rfl] at hread
  cases hread

theorem fitsTexts_of_readTexts {texts : List String} (hread : (readTexts v).result = .ok texts) :
    v.FitsTexts := by
  by_contra hfits
  have hfault := Value.toTexts_eq_nestedTooDeeply_iff.mpr hfits
  rw [readTexts.eq_def] at hread
  split at hread
  · exact hfits trivial
  · rw [hfault] at hread
    cases hread

end

theorem People.count_fits {p : People} (hread : (People.read .null row childRows).result = .ok p) :
    (row.get "people_count").FitsWhole := by
  obtain ⟨detections, -, hread⟩ := Reading.bind_result_eq_ok.mp hread
  obtain ⟨faces, -, hread⟩ := Reading.bind_result_eq_ok.mp hread
  obtain ⟨count, hcount, -⟩ := Reading.bind_result_eq_ok.mp hread
  have hfits : FieldKind.whole.Fits _ := FieldKind.fits_of_usable hcount
  exact hfits

theorem Objects.count_fits {o : Objects} (hread : (Objects.read .null row childRows).result = .ok o) :
    (row.get "objects_count").FitsWhole := by
  obtain ⟨detections, -, hread⟩ := Reading.bind_result_eq_ok.mp hread
  obtain ⟨count, hcount, -⟩ := Reading.bind_result_eq_ok.mp hread
  have hfits : FieldKind.whole.Fits _ := FieldKind.fits_of_usable hcount
  exact hfits

theorem Description.keywords_fit {d : Description}
    (hread : (Description.read .null row).result = .ok d) : (row.get "keywords").FitsTexts := by
  obtain ⟨_, -, hread⟩ := Reading.bind_result_eq_ok.mp hread
  obtain ⟨_, -, hread⟩ := Reading.bind_result_eq_ok.mp hread
  obtain ⟨_, -, hread⟩ := Reading.bind_result_eq_ok.mp hread
  obtain ⟨_, -, hread⟩ := Reading.bind_result_eq_ok.mp hread
  obtain ⟨_, -, hread⟩ := Reading.bind_result_eq_ok.mp hread
  obtain ⟨_, -, hread⟩ := Reading.bind_result_eq_ok.mp hread
  obtain ⟨_, -, hread⟩ := Reading.bind_result_eq_ok.mp hread
  obtain ⟨keywords, hkeywords, -⟩ := Reading.bind_result_eq_ok.mp hread
  exact fitsTexts_of_readTexts hkeywords

theorem Scene.confidence_fits {s : Scene} (hread : (Scene.read .null row).result = .ok s) :
    row.get "scene_label" = .null ∨ (row.get "scene_confidence").FitsReal := by
  obtain ⟨label, hlabel, hread⟩ := Reading.bind_result_eq_ok.mp hread
  cases label with
  | none =>
      refine Or.inl (by_contra fun hpresent => ?_)
      have hfound : (usable Value.toText "scene_label" (row.get "scene_label")).result = .ok none :=
        hlabel
      have htext : (row.get "scene_label").toText = .ok (row.get "scene_label").shown := rfl
      rw [usable_of_ok hpresent htext] at hfound
      cases hfound
  | some label =>
      obtain ⟨confidence, hconfidence, -⟩ := Reading.bind_result_eq_ok.mp hread
      have hfits : FieldKind.real.Fits _ := FieldKind.fits_of_usable hconfidence
      exact Or.inr hfits

/-- Rows that have no documents. -/
def Row.IsFlat (row : Row) : Prop := ∀ column ∈ documentColumns, row.LacksDocument column

/-- In a row without documents that is read, the columns fit. -/
theorem Row.IsFlat.columnsFit {r : Record} (hflat : row.IsFlat)
    (hread : (Record.ofRow row).result = .ok r) : row.ColumnsFit := by
  obtain ⟨f, hmake⟩ := Record.ofRow_eq_ok_iff.mp hread
  have hnull : ∀ e ∈ f.documents, e.2 = .null := by
    intro e he
    have hcolumns : f.documents.map Prod.fst = documentColumns := rfl
    have hcolumn := hflat e.1 (hcolumns ▸ List.mem_map_of_mem he) ""
    exact Except.ok.inj ((hmake.loads e he "").symm.trans hcolumn)
  simp only [Findings.documents, List.forall_mem_cons] at hnull
  obtain ⟨hmetadata, hdescription, hpeople, -, hobjects, -, hscene, -⟩ := hnull
  constructor
  case fields =>
    exact fun field => FieldKind.fits_of_usable (Metadata.read_null (hmetadata ▸ hmake.metadata) field)
  case peopleCount => exact People.count_fits (hpeople ▸ hmake.people)
  case objectsCount => exact Objects.count_fits (hobjects ▸ hmake.objects)
  case keywords => exact Description.keywords_fit (hdescription ▸ hmake.description)
  case confidence =>
    exact (Scene.confidence_fits (hscene ▸ hmake.scene)).imp_left fun hlabel =>
      ⟨hflat "scenes_json" (by decide), hlabel⟩

/-- A tame row is read whatever its documents tell. -/
theorem Row.Tame.exists_ofRow (hrow : row.Tame) : ∃ r, (Record.ofRow row).result = .ok r := by
  refine (Record.ofRow_fails hrow.columns.converts ?_ ?_).exists_ok
  · intro column hcolumn name
    obtain ⟨document, hload, -⟩ := loadDocument_of_deliversTame name (hrow.documents column hcolumn)
    rw [hload]
    exact failsOnly_ok document
  · intro column hcolumn name document hload
    obtain ⟨loaded, hloaded, htame⟩ :=
      loadDocument_of_deliversTame name (hrow.documents column hcolumn)
    obtain rfl : loaded = document := Except.ok.inj (hloaded.symm.trans hload)
    exact htame.allConvert

/-- A row without documents is read where its columns fit. -/
theorem Row.IsFlat.exists_ofRow (hflat : row.IsFlat) (hfit : row.ColumnsFit) :
    ∃ r, (Record.ofRow row).result = .ok r := by
  refine (Record.ofRow_fails hfit.converts ?_ ?_).exists_ok
  · intro column hcolumn name
    rw [hflat column hcolumn name]
    exact failsOnly_ok Value.null
  · intro column hcolumn name document hload
    obtain rfl : Value.null = document := Except.ok.inj ((hflat column hcolumn name).symm.trans hload)
    exact Value.tame_null.allConvert

/-- A row full of misfits: a size that is no number, a document that is none, and a count in words. -/
def oddRow : Row := [
  ("path", .bytes [255]),
  ("width", .text "wide"),
  ("metadata_json", .text "oops"),
  ("people_json", .map [("Count", .text "many")])]

theorem fits_word {s : String} (hnumber : float? s = none)
    (hread : Json.read s = .error .malformedDocument) : (Value.text s).Fits := by
  refine ⟨trivial, fun x hx => ?_, fun hdepth => ?_⟩
  · rw [hnumber] at hx
    cases hx
  · rw [hread] at hdepth
    cases hdepth

/-- An infinite width always ends the reading of a row. -/
theorem Record.not_isInfinite_width {r : Record} {x : Float}
    (hread : (Record.ofRow row).result = .ok r) (hwidth : row.get "width" = .float x) :
    ¬ IsInfinite x := by
  rintro ⟨negative, hparts⟩
  have hfault : (Value.float x).toCount = .error .outOfRange := by
    change intOfFloat x = _
    rw [intOfFloat, hparts]
  have hvalue : Value.float x ≠ .null := by
    intro hnull
    cases hnull
  obtain ⟨f, hmake⟩ := Record.ofRow_eq_ok_iff.mp hread
  have hfound := hmake.widthFound
  rw [hwidth, usable_eq_error hvalue hfault rfl] at hfound
  cases hfound

end PhotoCatalog
