import PhotoCatalog.Proofs.Record.Alike
import PhotoCatalog.Proofs.Text.Lower

/-!
The spelling of keys and the order of entries.  Every look into a document is up to case, so neither
the case of ASCII letters in keys nor the order of entries shows in a record.  Only where a mapping
is shown as a text, and among the labels of counts, do the keys themselves get into the record.
-/

namespace PhotoCatalog

open PhotoCatalog.Text

/-- Slots that do not show the keys of a mapping. -/
def Slot.HidesKeys : Slot → Prop
  | .text | .counts => False
  | .whole | .real | .flag | .corner | .texts | .list _ | .group _ | .ignored => True

/-- Respelling a document in one place. -/
inductive Respells : Slot → Value → Value → Prop where
  /-- ASCII letters of a key change their case. -/
  | key {p : Slot} {k k' : String} {v : Value} {before after : List (String × Value)}
      (hslot : p.HidesKeys) (hsame : SameLetters k k') :
      Respells p (.map (before ++ (k, v) :: after)) (.map (before ++ (k', v) :: after))
  /-- The entries of a mapping are put into another order. -/
  | order {p : Slot} {entries entries' : List (String × Value)} (hslot : p.HidesKeys)
      (hperm : entries.Perm entries') : Respells p (.map entries) (.map entries')

variable {p : Slot} {v w document document' : Value} {entries entries' : List (String × Value)}
  {row row' : Row}

/-- Where keys are hidden, mappings are alike that have the same under every key. -/
theorem Slot.HidesKeys.alike (hslot : p.HidesKeys) (hempty : entries.isEmpty = entries'.isEmpty)
    (hsame : ∀ key, (Value.map entries).entry key = (Value.map entries').entry key) :
    p.Alike (.map entries) (.map entries') := by
  cases p with
  | whole | real => exact convertAlike_of_eq nofun nofun rfl
  | flag =>
      refine convertAlike_of_eq nofun nofun ?_
      simp only [Value.toBool, Value.truthy, hempty]
  | corner | texts => exact ⟨rfl, rfl⟩
  | list | ignored => exact trivial
  | group slots =>
      refine ⟨rfl, fun key => ?_⟩
      rw [hsame key]
      exact .refl _ _
  | text | counts => exact hslot.elim

theorem unnoticed_respells : Unnoticed Respells := by
  intro p v w hrespells hv
  cases hrespells with
  | @key k k' v before after hslot hsame =>
      have hkey : lower k' = lower k := hsame.lower_eq.symm
      have hw := hv.replace hkey (hv.entries (k, v) (List.mem_append_right _ List.mem_cons_self))
      refine ⟨hslot.alike ?_ fun key => ?_, hw⟩
      · cases before <;> rfl
      · rw [Value.entry_split hv.self, Value.entry_split hw.self, hkey]
  | order hslot hperm =>
      exact ⟨hslot.alike hperm.isEmpty_eq fun key => (Value.entry_perm hv.self hperm key).symm,
        hv.perm hperm⟩

/-- Respelling a row in one place does not change its record. -/
theorem Row.Changed.ofRow_respells (hrow : row.Unambiguous) (hchanged : row.Changed Respells row') :
    (Record.ofRow row').result = (Record.ofRow row).result ∧ row'.Unambiguous := by
  obtain ⟨halike, hunambiguous⟩ := unnoticed_respells.changedRow hrow hchanged
  exact ⟨halike.ofRow.symm, hunambiguous⟩

/-- Respelling the document of a record in one place does not change the record. -/
theorem Changed.ofDocument_respells (hdocument : document.Unambiguous)
    (hchanged : Changed Respells (.keyed recordTable) document document') :
    (Record.ofDocument document').result = (Record.ofDocument document).result ∧
      document'.Unambiguous := by
  obtain ⟨halike, hunambiguous⟩ := unnoticed_respells.changed _ _ _ hchanged hdocument
  exact ⟨(Record.ofDocument_alike halike).symm, hunambiguous⟩

/-- Respelling documents, in as many places as one likes, changes neither the record of a row nor
that of a document. -/
theorem Record.read_respelled (row row' : Row) (document document' : Value) :
    (row.Unambiguous → Relation.ReflTransGen (Row.Changed Respells) row row' →
      (Record.ofRow row').result = (Record.ofRow row).result) ∧
    (document.Unambiguous →
      Relation.ReflTransGen (Changed Respells (.keyed recordTable)) document document' →
        (Record.ofDocument document').result = (Record.ofDocument document).result) :=
  ⟨eq_of_steps (fun row => (Record.ofRow row).result) fun _ _ => Row.Changed.ofRow_respells,
    eq_of_steps (fun document => (Record.ofDocument document).result)
      fun _ _ => Changed.ofDocument_respells⟩

/-- Metadata that tell of a camera, and the same in another order. -/
def makeFirst : Value := .map [("Camera", .map [("Make", .text "Canon"), ("Model", .text "A1")])]

def modelFirst : Value := .map [("Camera", .map [("Model", .text "A1"), ("Make", .text "Canon")])]

theorem makeFirst_unambiguous : makeFirst.Unambiguous := by
  have hscalar : ∀ {v : Value}, v.isDocument = false → v.Unambiguous :=
    Value.Unambiguous.of_no_document
  have hcamera : (Value.map [("Make", .text "Canon"), ("Model", .text "A1")]).Unambiguous := by
    refine .map ?_ ?_
    · unfold Value.HasDistinctKeys
      decide +kernel
    · simp only [List.forall_mem_cons]
      exact ⟨hscalar rfl, hscalar rfl, List.forall_mem_nil _⟩
  exact .map (List.nodup_singleton _) (List.forall_mem_singleton.mpr hcamera)

theorem makeFirst_changed : Changed Respells (.keyed metadataTable) makeFirst modelFirst := by
  have hslot : (Slot.keyed metadataTable).entry "Camera" = .keyed MetadataGroup.camera.table :=
    Slot.entry_keyed List.mem_cons_self
  have horder : Changed Respells ((Slot.keyed metadataTable).entry "Camera")
      (.map [("Make", .text "Canon"), ("Model", .text "A1")])
      (.map [("Model", .text "A1"), ("Make", .text "Canon")]) := by
    rw [hslot]
    exact .here (.order trivial (.swap _ _ _))
  have hwhole : Changed Respells (.keyed metadataTable)
      (.map ([] ++ [("Camera", .map [("Make", .text "Canon"), ("Model", .text "A1")])]))
      (.map ([] ++ [("Camera", .map [("Model", .text "A1"), ("Make", .text "Canon")])])) :=
    .entry horder
  exact hwhole

/-- A row with its metadata in another order, and a document with a key in capitals. -/
theorem respelt_records :
    Row.Unambiguous [("metadata_json", makeFirst)] ∧
    (Record.ofRow [("metadata_json", modelFirst)]).result =
      (Record.ofRow [("metadata_json", makeFirst)]).result ∧
    Value.Unambiguous (.map [("Path", .text "a.jpg")]) ∧
    (Record.ofDocument (.map [("PATH", .text "a.jpg")])).result =
      (Record.ofDocument (.map [("Path", .text "a.jpg")])).result ∧
    (Record.ofDocument (.map [("PATH", .text "a.jpg")])).result.toOption.map (·.path) =
      some "a.jpg" := by
  have hrow : Row.Unambiguous [("metadata_json", makeFirst)] := by
    have hnone : Value.Unambiguous .null := Value.Unambiguous.of_no_document rfl
    apply Row.unambiguous_of_loads
    simp only [documentColumns, List.forall_mem_cons]
    exact ⟨⟨_, fun _ => rfl, makeFirst_unambiguous⟩, ⟨_, fun _ => rfl, hnone⟩,
      ⟨_, fun _ => rfl, hnone⟩, ⟨_, fun _ => rfl, hnone⟩, ⟨_, fun _ => rfl, hnone⟩,
      ⟨_, fun _ => rfl, hnone⟩, ⟨_, fun _ => rfl, hnone⟩, List.forall_mem_nil _⟩
  have hrowChanged : Row.Changed Respells [("metadata_json", makeFirst)]
      [("metadata_json", modelFirst)] := by
    refine .intro List.mem_cons_self (fun other hother => ?_) (fun _ => rfl) (fun _ => rfl)
      makeFirst_changed
    simp only [Row.get, List.lookup_cons, beq_eq_false_iff_ne.mpr hother]
  have hdocument : Value.Unambiguous (.map [("Path", .text "a.jpg")]) :=
    .map (List.nodup_singleton _)
      (List.forall_mem_singleton.mpr (Value.Unambiguous.of_no_document rfl))
  have hcapitals : SameLetters "Path" "PATH" := by decide
  have hdocumentChanged : Changed Respells (.keyed recordTable)
      (.map ([] ++ [("Path", .text "a.jpg")])) (.map ([] ++ [("PATH", .text "a.jpg")])) :=
    .here (.key trivial hcapitals)
  obtain ⟨hrows, hdocuments⟩ := Record.read_respelled _ _ _ _
  exact ⟨hrow, hrows hrow (.single hrowChanged), hdocument,
    hdocuments hdocument (.single hdocumentChanged), by decide +kernel⟩

/-- A mapping in the place of a text is shown with its keys in their order. -/
theorem shown_mapping_keeps_order :
    [("a", Value.int 1), ("b", .int 2)].Perm [("b", .int 2), ("a", .int 1)] ∧
    (Record.ofDocument (.map [("Path", .map [("a", .int 1), ("b", .int 2)])])).result.toOption.map
      (·.path) = some "\x7b'a': 1, 'b': 2\x7d" ∧
    (Record.ofDocument (.map [("Path", .map [("b", .int 2), ("a", .int 1)])])).result.toOption.map
      (·.path) = some "\x7b'b': 2, 'a': 1\x7d" := by
  refine ⟨.swap _ _ _, ?_, ?_⟩
  all_goals decide +kernel

end PhotoCatalog
