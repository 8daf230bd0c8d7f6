import PhotoCatalog.Proofs.Record.Written

/-!
The parts of a record.  Metadata, description, detections and the scene are each read back from
their documents, when boxes have four corners and counted labels are distinct.
-/

namespace PhotoCatalog

theorem MetadataField.mem_fields (field : MetadataField) : field ∈ field.shape.group.fields := by
  cases field <;> decide

theorem MetadataGroup.keys_nodup (group : MetadataGroup) :
    (group.fields.map fun field => field.shape.key).Nodup := by
  cases group <;> decide

theorem MetadataGroup.mem_all (group : MetadataGroup) : group ∈ all := by
  cases group <;> decide

theorem MetadataField.mem_all (field : MetadataField) : field ∈ MetadataField.all :=
  List.mem_flatMap.mpr ⟨field.shape.group, field.shape.group.mem_all, field.mem_fields⟩

theorem FieldKind.usable_toValue (kind : FieldKind) (place : String) (o : Option kind.Carrier) :
    (usable kind.read place (.ofOption kind.toValue o)).result = .ok o := by
  apply usable_ofOption
  · cases kind <;> exact fun _ => nofun
  · cases kind <;> exact fun _ => rfl

/-- The group of a field is found in the document of metadata. -/
theorem Metadata.entry_group (m : Metadata) (group : MetadataGroup) :
    m.document.entry group.key = m.groupDocument group := by
  apply Value.entry_of_mem
  · rw [keysOf, List.map_map]
    change (MetadataGroup.all.map MetadataGroup.key).Nodup
    decide
  · exact List.mem_map.mpr ⟨group, group.mem_all, rfl⟩

/-- A field is found in the document of its group. -/
theorem Metadata.entry_field (m : Metadata) (field : MetadataField) :
    (m.groupDocument field.shape.group).entry field.shape.key =
      .ofOption field.kind.toValue (m.get field) := by
  apply Value.entry_of_mem
  · rw [keysOf, List.map_map]
    exact field.shape.group.keys_nodup
  · exact List.mem_map.mpr ⟨field, field.mem_fields, rfl⟩

theorem MetadataField.read_document (m : Metadata) (field : MetadataField) :
    (field.read (m.document.entry field.shape.group.key) []).result = .ok (m.get field) := by
  rw [MetadataField.read, m.entry_group, m.entry_field]
  exact merged_nil (field.kind.usable_toValue _ (m.get field))

theorem Reading.forM_result {α : Type} {β : α → Type} {read : (item : α) → Reading (β item)}
    {items : List α} (hread : ∀ item ∈ items, ∃ b, (read item).result = .ok b) :
    (items.forM fun item => discard (read item)).result = .ok () := by
  induction items with
  | nil => rfl
  | cons item items ih =>
      obtain ⟨b, hb⟩ := hread item List.mem_cons_self
      have hrest := ih fun other hother => hread other (List.mem_cons_of_mem item hother)
      have hfirst : (discard (read item)).result = .ok () := by
        change (read item >>= fun _ => pure ()).result = _
        rw [result_bind, hb]
        rfl
      change (discard (read item) >>= fun _ =>
        items.forM fun item => discard (read item)).result = _
      rw [result_bind, hfirst]
      exact hrest

/-- Metadata are read back from their document. -/
theorem Metadata.read_document (m : Metadata) : (Metadata.read m.document []).result = .ok m := by
  have hall := Reading.forM_result fun field (_ : field ∈ MetadataField.all) =>
    ⟨m.get field, field.read_document m⟩
  have hget : ∀ field : MetadataField, Reading.resultD
      (field.read (m.document.entry field.shape.group.key) []) none = m.get field := by
    intro field
    rw [Reading.resultD, field.read_document m]
  simp only [Metadata.read, Reading.result_bind, hall, ok_bind, Reading.result_pure, hget]

/-- A description is read back from its document. -/
theorem Description.read_document (d : Description) :
    (Description.read d.document []).result = .ok d := by
  have hexplicit : d.document.entry "HasExplicitContent" = .bool d.hasExplicitContent := rfl
  have hnudity : d.document.entry "HasNudity" = .bool d.hasNudity := rfl
  have hpicture : d.document.entry "PictureType" = .ofOption .text d.pictureType := rfl
  have hmood : d.document.entry "OverallMood" = .ofOption .text d.overallMood := rfl
  have hstyle : d.document.entry "StyleType" = .ofOption .text d.styleType := rfl
  have hkeywords : (d.document.entry "Keywords").orElse (Row.get [] "keywords") =
      .ofTexts d.keywords := rfl
  have hshort : d.document.entry "ShortDescription" = .ofOption .text d.shortDescription := rfl
  have hlong : d.document.entry "LongDescription" = .ofOption .text d.longDescription := rfl
  simp only [Description.read, Reading.result_bind, hexplicit, hnudity, hpicture, hmood, hstyle,
    hkeywords, hshort, hlong, merged_text, merged_bool, readTexts_ofTexts, ok_bind]
  rfl

/-- A scene is read back from its document. -/
theorem Scene.read_document (s : Scene) : (Scene.read s.document []).result = .ok s := by
  have hlabel : s.document.entry "Label" = .ofOption .text (some s.label) := rfl
  have hconfidence : s.document.entry "Confidence" = .float s.confidence := rfl
  have hpercentage : s.document.entry "ConfidencePercentage" = .float s.percentage := rfl
  have hsuccess : s.document.entry "Success" = .bool s.success := rfl
  simp only [Scene.read, Reading.result_bind, hlabel, hconfidence, hpercentage, hsuccess,
    merged_text, merged_float, usable_float, usable_bool, ok_bind]
  rfl

/-- The keys under which the documents of detections keep their labels. -/
def IsLabelKey (labelKey : String) : Prop := labelKey = faceKey ∨ labelKey = objectKey

variable {labelKey : String} {d : Detection}

/-- The document of a detection has no corner outside its box. -/
theorem Detection.entry_corner (hkey : IsLabelKey labelKey) :
    ["x_min", "y_min", "x_max", "y_max"].map (d.document labelKey).entry =
      [.null, .null, .null, .null] := by
  have habsent : ∀ key ∈ ["x_min", "y_min", "x_max", "y_max"],
      (d.document labelKey).entry key = .null := by
    intro key hmem
    apply Value.entry_of_absent
    change ∀ k ∈ ["Confidence", "BBox", labelKey], Text.lower k ≠ Text.lower key
    revert key
    rcases hkey with rfl | rfl <;> decide +kernel
  simp only [List.map_cons, List.map_nil, habsent _ (List.mem_cons_self),
    habsent "y_min" (by decide), habsent "x_max" (by decide), habsent "y_max" (by decide)]

/-- A box is read back from the document of its detection. -/
theorem Detection.readBox_document (hkey : IsLabelKey labelKey)
    (hbox : ∀ box, d.box = some box → box.length = 4) :
    (readBox (d.document labelKey)).result = .ok d.box := by
  have hentry : (d.document labelKey).entry "BBox" =
      .ofOption (fun corners => .list (corners.map .int)) d.box := rfl
  rw [readBox, cornersOf, hentry, entry_corner hkey]
  cases hd : d.box with
  | none => rfl
  | some box =>
      have hlength : (box.map Value.int).length = 4 := by
        rw [List.length_map]
        exact hbox box hd
      have hknown : (box.map Value.int).any Value.isNull = false := by
        rw [List.any_eq_false]
        intro v hv
        obtain ⟨n, -, rfl⟩ := List.mem_map.mp hv
        exact Bool.false_ne_true
      have hcorners : (box.map Value.int).mapM Value.toInt = .ok box := by
        rw [mapM_eq_ok, List.map_map]
        rfl
      simp only [Value.ofOption, if_pos hlength, hknown, hcorners]
      rfl

/-- A detection is read back from its document. -/
theorem Detection.read_document (hkey : IsLabelKey labelKey)
    (hbox : ∀ box, d.box = some box → box.length = 4) :
    (Detection.read (.ofOption .text d.label) (d.document labelKey)).result = .ok d := by
  have hconfidence : (d.document labelKey).entry "Confidence" = .float d.confidence := rfl
  simp only [Detection.read, Reading.result_bind, hconfidence, usable_float,
    readBox_document hkey hbox, ok_bind]
  obtain ⟨confidence, box, label⟩ := d
  cases label <;> rfl

theorem readFace_document (hbox : ∀ box, d.box = some box → box.length = 4) :
    (readFace (d.document faceKey)).result = .ok d := by
  have hname : (d.document faceKey).entry "name" = .null := by
    apply Value.entry_of_absent
    change ∀ k ∈ ["Confidence", "BBox", "UserId"], Text.lower k ≠ Text.lower "name"
    decide +kernel
  have hlabel : ((d.document faceKey).entry faceKey).orElse ((d.document faceKey).entry "name") =
      .ofOption .text d.label := by
    rw [hname]
    change (Value.ofOption Value.text d.label).orElse .null = _
    cases d.label <;> rfl
  rw [readFace, hlabel]
  exact Detection.read_document (Or.inl rfl) hbox

theorem readObject_document (hbox : ∀ box, d.box = some box → box.length = 4) :
    (readObject (d.document objectKey)).result = .ok d := by
  have hlabel : (d.document objectKey).entry objectKey = .ofOption .text d.label := rfl
  rw [readObject, hlabel]
  exact Detection.read_document (Or.inr rfl) hbox

/-- Detections are read back from the list of their documents. -/
theorem readItems_documents {read : Value → Reading Detection} {detections : List Detection}
    (hread : ∀ d ∈ detections, (read (d.document labelKey)).result = .ok d) :
    (readItems read (detections.map (Detection.document labelKey))).result = .ok detections := by
  induction detections with
  | nil => rfl
  | cons d detections ih =>
      have hrest := ih fun other hother => hread other (List.mem_cons_of_mem d hother)
      have hmap : (d.document labelKey).isMap = true := rfl
      simp only [List.map_cons, readItems, hmap, if_true, Reading.result_bind,
        hread d List.mem_cons_self, hrest, ok_bind]
      rfl

theorem readCounts_written (before counts : List (String × Int)) :
    (readCounts before (counts.map fun (label, n) => (label, .int n))).result =
      .ok (counts.foldl (fun m e => setEntry e.1 e.2 m) before) := by
  induction counts generalizing before with
  | nil => rfl
  | cons entry counts ih =>
      obtain ⟨label, n⟩ := entry
      have hcount : (usable Value.toCount ("Objects.LabelCounts[" ++ label ++ "]")
          (.int n)).result = .ok (some n) := rfl
      simp only [List.map_cons, readCounts, Reading.result_bind, hcount, ok_bind]
      exact ih (setEntry label n before)

/-- Counts of distinct labels are read back. -/
theorem readCounts_document {counts : List (String × Int)} (hkeys : (keysOf counts).Nodup) :
    (readCounts [] (counts.map fun (label, n) => (label, .int n))).result = .ok counts := by
  rw [readCounts_written]
  exact congrArg Except.ok (mapOfEntries_of_nodup hkeys)

/-- People are read back from their document. -/
theorem People.read_document (p : People)
    (hboxes : ∀ d ∈ p.detections, ∀ box, d.box = some box → box.length = 4) :
    (People.read p.document [] .null).result = .ok p := by
  have hdetections : (readDetections readFace p.document .null).result = .ok p.detections :=
    readItems_documents fun d hd => readFace_document (hboxes d hd)
  have hfaces : p.document.entry "Faces" = .ofTexts p.faces := rfl
  have hlist : (Value.ofTexts p.faces).isNull = false := rfl
  have hcount : p.document.entry "Count" = .int p.count := rfl
  have hsuccess : p.document.entry "Success" = .bool p.success := rfl
  simp only [People.read, Reading.result_bind, hdetections, hfaces, hlist, hcount, hsuccess,
    Bool.false_eq_true, if_false, readTexts_ofTexts, merged_int, usable_bool, ok_bind]
  rfl

/-- Objects are read back from their document. -/
theorem Objects.read_document (o : Objects)
    (hboxes : ∀ d ∈ o.detections, ∀ box, d.box = some box → box.length = 4)
    (hlabels : (keysOf o.labelCounts).Nodup) :
    (Objects.read o.document [] .null).result = .ok o := by
  have hdetections : (readDetections readObject o.document .null).result = .ok o.detections :=
    readItems_documents fun d hd => readObject_document (hboxes d hd)
  have hcount : o.document.entry "Count" = .int o.count := rfl
  have hcounts : o.document.entry "LabelCounts" =
      .map (o.labelCounts.map fun (label, n) => (label, .int n)) := rfl
  simp only [Objects.read, Reading.result_bind, hdetections, hcount, hcounts, merged_int,
    readCounts_document hlabels, ok_bind]
  rfl

end PhotoCatalog
