import PhotoCatalog.Proofs.Record.Alike

/-!
Broken parts of documents.  A column that spells no document, a part of a document that is of the
wrong kind, and a value that does not fit its slot may be taken out of a row: its record stays the
same, so what stands in their place in plain columns and child rows is never hidden.  Lists of texts
are the exception: one that is none counts as an empty list.
-/

namespace PhotoCatalog

open PhotoCatalog.Text

/-- Texts that are blank, no JSON, or the JSON of something that is no document. -/
def SpellsNoDocument (text : String) : Prop :=
  isBlankText text = true ∨ Json.read text = .error .malformedDocument ∨
    ∃ v, Json.read text = .ok v ∧ v.isDocument = false

/-- Values of a column that hold no document. -/
def Value.HoldsNoDocument : Value → Prop
  | .text s => SpellsNoDocument s
  | .bytes data => SpellsNoDocument (decodeLossy data)
  | v => v.isDocument = false

/-- Whether a value is a misfit for a conversion. -/
def Value.Misfits {α : Type} (convert : Value → Except Fault α) (v : Value) : Prop :=
  ∃ fault, convert v = .error fault ∧ fault.isMisfit = true

/-- Values that are broken in a slot: of the wrong kind, or a misfit for the conversion. -/
def Slot.IsBroken : Slot → Value → Prop
  | .whole, v => v.Misfits Value.toCount
  | .real, v => v.Misfits Value.toFloat
  | .flag, v => v.Misfits Value.toBool
  | .counts, v | .group _, v => v.isMap = false
  | .list _, v => ∀ items, v ≠ .list items
  | .text, _ | .corner, _ | .texts, _ | .ignored, _ => False

/-- Mending a document in one place. -/
inductive Mends : Slot → Value → Value → Prop where
  /-- An entry that is null or broken is taken out. -/
  | entry {slots : String → Slot} {key : String} {v : Value} {before after : List (String × Value)}
      (hbroken : v = .null ∨ ((Slot.group slots).entry key).IsBroken v) :
      Mends (.group slots) (.map (before ++ (key, v) :: after)) (.map (before ++ after))
  /-- A count that is null or broken is taken out. -/
  | count {label : String} {v : Value} {before after : List (String × Value)}
      (hbroken : v = .null ∨ Slot.whole.IsBroken v) :
      Mends .counts (.map (before ++ (label, v) :: after)) (.map (before ++ after))
  /-- A list of texts that is none is emptied. -/
  | texts {v : Value} (hvalue : v ≠ .null) (hbroken : v.Misfits Value.toTexts) :
      Mends .texts v (.list [])

/-- A row without one of its columns. -/
def Row.without (row : Row) (column : String) : Row := row.filter fun e => e.1 != column

/-- Mending a row in one place. -/
inductive Row.Mends (row : Row) : Row → Prop where
  /-- A column that holds no document is taken out. -/
  | column {column : String} (hcolumn : column ∈ documentColumns)
      (hbroken : (row.get column).HoldsNoDocument) : row.Mends (row.without column)
  /-- A document is mended. -/
  | document {row' : Row} (hchanged : row.Changed PhotoCatalog.Mends row') : row.Mends row'

variable {p : Slot} {key column : String} {v : Value} {before after : List (String × Value)}
  {row row' : Row}

theorem usable_of_misfits {α : Type} {convert : Value → Except Fault α}
    (hbroken : v.Misfits convert) (place : String) :
    (usable convert place v).result = .ok none := by
  obtain ⟨fault, hfault, hmisfit⟩ := hbroken
  rw [usable.eq_def]
  split
  · rfl
  · rw [hfault]
    dsimp only
    rw [hmisfit]
    rfl

theorem readTexts_of_misfits (hbroken : v.Misfits Value.toTexts) :
    (readTexts v).result = .ok [] := by
  obtain ⟨fault, hfault, hmisfit⟩ := hbroken
  rw [readTexts.eq_def]
  split
  · rfl
  · rw [hfault]
    dsimp only
    rw [hmisfit]
    rfl

/-- What is no mapping has nothing under any key. -/
theorem Value.entry_of_no_map (hvalue : v.isMap = false) (key : String) : v.entry key = .null := by
  cases v with
  | map entries => contradiction
  | null | bool | int | float | text | bytes | date | moment | list => rfl

/-- What is broken in a slot is read like nothing. -/
theorem Slot.IsBroken.alike (hbroken : p.IsBroken v) : p.Alike v .null := by
  cases p with
  | whole | real | flag => exact usable_of_misfits hbroken
  | counts =>
      cases v with
      | map entries => contradiction
      | null | bool | int | float | text | bytes | date | moment | list => exact trivial
  | list item =>
      cases v with
      | list items => exact absurd rfl (hbroken items)
      | null | bool | int | float | text | bytes | date | moment | map => exact trivial
  | group slots =>
      refine ⟨hbroken, fun key => ?_⟩
      rw [Value.entry_of_no_map hbroken]
      exact .refl _ _
  | text | corner | texts | ignored => exact hbroken.elim

theorem Slot.alike_null (hbroken : v = .null ∨ p.IsBroken v) : p.Alike v .null := by
  rcases hbroken with rfl | hbroken
  · exact .refl p .null
  · exact hbroken.alike

/-- A count that is null or broken is not counted. -/
theorem readCounts_without (hbroken : v = .null ∨ Slot.whole.IsBroken v) :
    ∀ counts, (readCounts counts (before ++ (key, v) :: after)).result =
      (readCounts counts (before ++ after)).result := by
  refine readCounts_append fun counts => ?_
  have hnothing : ∀ place, (usable Value.toCount place v).result = .ok none :=
    Slot.alike_null hbroken
  rw [readCounts, Reading.result_bind, hnothing]
  rfl

theorem unnoticed_mends : Unnoticed Mends := by
  -- The other entries do not notice; under the key of the entry there is nothing left to read.
  intro p v w hmends hv
  cases hmends with
  | @entry slots key v before after hbroken =>
      refine ⟨⟨rfl, fun other => ?_⟩, hv.without⟩
      rw [Value.entry_split hv.self]
      split
      · rename_i hkey
        rw [Value.entry_without hv.self hkey]
        exact hkey ▸ Slot.alike_null hbroken
      · exact .refl _ _
  | count hbroken => exact ⟨readCounts_without hbroken, hv.without⟩
  | texts hvalue hbroken =>
      refine ⟨⟨?_, readTexts_of_misfits hbroken⟩, .list trivial (List.forall_mem_nil _)⟩
      cases v with
      | null => exact absurd rfl hvalue
      | bool | int | float | text | bytes | date | moment | list | map => rfl

theorem Row.get_without_self (row : Row) (column : String) :
    (row.without column).get column = .null := by
  have hnone : (row.without column).lookup column = none := by
    rw [List.lookup_eq_none_iff]
    intro e he
    rw [bne_comm]
    exact (List.mem_filter.mp he).2
  rw [Row.get, hnone]
  rfl

theorem Row.get_without {other : String} (hother : other ≠ column) :
    (row.without column).get other = row.get other := by
  have hlookup : (row.without column).lookup other = row.lookup other := by
    induction row with
    | nil => rfl
    | cons e row ih =>
        rw [Row.without, List.filter_cons]
        split
        · rw [List.lookup_cons, List.lookup_cons]
          split
          · rfl
          · exact ih
        · rename_i hcolumn
          obtain rfl : e.1 = column := by simpa using hcolumn
          rw [List.lookup_cons, beq_eq_false_iff_ne.mpr hother]
          exact ih
  rw [Row.get, Row.get, hlookup]

/-- What is loaded where no document is held is no document. -/
theorem Value.HoldsNoDocument.load (hvalue : v.HoldsNoDocument) :
    ∃ document : Value, document.isDocument = false ∧
      ∀ name, (loadDocument name v).result = .ok document := by
  have hread : ∀ text, SpellsNoDocument text → ∃ document : Value, document.isDocument = false ∧
      ∀ name, (readDocument name text).result = .ok document := by
    intro text htext
    by_cases hblank : isBlankText text = true
    · exact ⟨.null, rfl, fun name => by rw [readDocument, if_pos hblank]; rfl⟩
    · obtain hmalformed | ⟨document, hjson, hdocument⟩ := htext.resolve_left hblank
      · exact ⟨.null, rfl, fun name => by rw [readDocument, if_neg hblank, hmalformed]; rfl⟩
      · exact ⟨document, hdocument, fun name => by rw [readDocument, if_neg hblank, hjson]; rfl⟩
  cases v with
  | text s => exact hread s hvalue
  | bytes data => exact hread (decodeLossy data) hvalue
  | list | map => contradiction
  | null | bool | int | float | date | moment => exact ⟨.null, rfl, fun _ => rfl⟩

/-- What is no document is broken wherever a document is wanted. -/
theorem isBroken_of_no_document (hvalue : v.isDocument = false)
    (hslot : (column, p) ∈ documentSlots) : p.IsBroken v := by
  have hmap : v.isMap = false := by
    cases v with
    | map | list => contradiction
    | null | bool | int | float | text | bytes | date | moment => rfl
  have hlist : ∀ items, v ≠ .list items := by
    rintro items rfl
    contradiction
  have hall : ∀ e ∈ documentSlots, e.2.IsBroken v := by
    simp only [documentSlots, List.forall_mem_cons]
    exact ⟨hmap, hmap, hmap, hlist, hmap, hlist, hmap, List.forall_mem_nil _⟩
  exact hall _ hslot

/-- A row without a column that holds no document is read alike. -/
theorem Row.without_alike (hrow : row.Unambiguous) (hcolumn : column ∈ documentColumns)
    (hbroken : (row.get column).HoldsNoDocument) :
    row.Alike (row.without column) ∧ (row.without column).Unambiguous := by
  obtain ⟨p, hslot⟩ := mem_documentColumns_iff.mp hcolumn
  obtain ⟨document, hdocument, hload⟩ := hbroken.load
  refine ⟨Row.alike_of_column hslot (fun other hother => Row.get_without hother) fun name => ?_, ?_⟩
  · rw [hload, Row.get_without_self]
    exact .ok (isBroken_of_no_document hdocument hslot).alike
  · intro other hother name loaded hloaded
    by_cases hsame : other = column
    · rw [hsame, Row.get_without_self] at hloaded
      cases hloaded
      exact .of_no_document rfl
    · rw [Row.get_without hsame] at hloaded
      exact hrow other hother name loaded hloaded

/-- Mending a row in one place does not change its record. -/
theorem Row.Mends.ofRow (hrow : row.Unambiguous) (hmends : row.Mends row') :
    (Record.ofRow row').result = (Record.ofRow row).result ∧ row'.Unambiguous := by
  have hboth : row.Alike row' ∧ row'.Unambiguous := by
    cases hmends with
    | column hcolumn hbroken => exact Row.without_alike hrow hcolumn hbroken
    | document hchanged => exact unnoticed_mends.changedRow hrow hchanged
  exact ⟨hboth.1.ofRow.symm, hboth.2⟩

/-- A row that tells of metadata and of objects, and how many objects there are. -/
def sampleRow (metadata objects : Value) : Row :=
  [("path", .text "a.jpg"), ("objects_count", .int 3), ("metadata_json", metadata),
    ("objects_json", objects)]

/-- Objects with a count in words, and the same without it. -/
def brokenObjects : Value := .map [("Count", .text "many"), ("LabelCounts", .map [("cat", .int 2)])]

def mendedObjects : Value := .map [("LabelCounts", .map [("cat", .int 2)])]

/-- A row with a document that is none, a group that is no mapping, and a count in words. -/
def brokenRow : Row :=
  ("people_json", .text "oops") :: sampleRow (.text "\x7b\"Camera\": 5\x7d") brokenObjects

/-- The same row without its broken parts. -/
def mendedRow : Row := sampleRow (.text "\x7b\x7d") mendedObjects

theorem loadDocument_brokenGroup (name : String) :
    (loadDocument name (.text "\x7b\"Camera\": 5\x7d")).result = .ok (.map [("Camera", .int 5)]) :=
  loadDocument_text (by decide +kernel) (by cbv)

theorem loadDocument_noGroup (name : String) :
    (loadDocument name (.text "\x7b\x7d")).result = .ok (.map []) :=
  loadDocument_text (by decide +kernel) (by cbv)

theorem brokenRow_unambiguous : brokenRow.Unambiguous := by
  have hscalar : ∀ {v : Value}, v.isDocument = false → v.Unambiguous :=
    Value.Unambiguous.of_no_document
  have hgroup : (Value.map [("Camera", .int 5)]).Unambiguous :=
    .map (List.nodup_singleton _) (List.forall_mem_singleton.mpr (hscalar rfl))
  have hcounts : (Value.map [("cat", .int 2)]).Unambiguous :=
    .map (List.nodup_singleton _) (List.forall_mem_singleton.mpr (hscalar rfl))
  have hobjects : brokenObjects.Unambiguous := by
    refine .map ?_ ?_
    · unfold Value.HasDistinctKeys
      decide +kernel
    · simp only [List.forall_mem_cons]
      exact ⟨hscalar rfl, hcounts, List.forall_mem_nil _⟩
  have hnone : Value.Unambiguous .null := hscalar rfl
  apply Row.unambiguous_of_loads
  simp only [documentColumns, List.forall_mem_cons]
  exact ⟨⟨_, loadDocument_brokenGroup, hgroup⟩, ⟨_, fun _ => rfl, hnone⟩, ⟨_, fun _ => rfl, hnone⟩,
    ⟨_, fun _ => rfl, hnone⟩, ⟨_, fun _ => rfl, hobjects⟩, ⟨_, fun _ => rfl, hnone⟩,
    ⟨_, fun _ => rfl, hnone⟩, List.forall_mem_nil _⟩

/-- The broken parts are taken out one after the other. -/
theorem brokenRow_mends : Relation.ReflTransGen Row.Mends brokenRow mendedRow := by
  have hcolumn : brokenRow.Mends (brokenRow.without "people_json") :=
    .column (by decide) (Or.inr (Or.inl rfl))
  have hgroup : Mends (.keyed metadataTable) (.map ([] ++ [("Camera", .int 5)])) (.map ([] ++ [])) := by
    have hslot : (Slot.keyed metadataTable).entry "Camera" = .keyed MetadataGroup.camera.table :=
      Slot.entry_keyed List.mem_cons_self
    refine .entry (Or.inr ?_)
    rw [← Slot.keyed, hslot]
    rfl
  have hcount : Mends (.keyed objectsTable)
      (.map ([] ++ [("Count", .text "many"), ("LabelCounts", .map [("cat", .int 2)])]))
      (.map ([] ++ [("LabelCounts", .map [("cat", .int 2)])])) := by
    have hslot : (Slot.keyed objectsTable).entry "Count" = .whole :=
      Slot.entry_keyed (List.mem_cons_of_mem _ List.mem_cons_self)
    refine .entry (Or.inr ?_)
    rw [← Slot.keyed, hslot]
    exact ⟨.malformedNumber, rfl, rfl⟩
  have hmetadata : Row.Mends (brokenRow.without "people_json")
      (sampleRow (.text "\x7b\x7d") brokenObjects) := by
    refine .document (.intro List.mem_cons_self (fun other hother => ?_) loadDocument_brokenGroup
      loadDocument_noGroup (.here hgroup))
    have hpasses : (other == "metadata_json") = false := beq_eq_false_iff_ne.mpr hother
    simp [Row.get, Row.without, brokenRow, sampleRow, List.lookup_cons, hpasses]
  have hobjects : Row.Mends (sampleRow (.text "\x7b\x7d") brokenObjects) mendedRow := by
    have hslot : ("objects_json", Slot.keyed objectsTable) ∈ documentSlots := by
      simp [documentSlots]
    refine .document (.intro hslot (fun other hother => ?_) (fun _ => rfl) (fun _ => rfl)
      (.here hcount))
    have hpasses : (other == "objects_json") = false := beq_eq_false_iff_ne.mpr hother
    simp [Row.get, sampleRow, mendedRow, List.lookup_cons, hpasses]
  exact ((Relation.ReflTransGen.single hcolumn).tail hmetadata).tail hobjects

end PhotoCatalog
