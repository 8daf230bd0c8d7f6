import PhotoCatalog.Proofs.Record.Findings
import PhotoCatalog.Proofs.Record.Tally
import PhotoCatalog.Record.Threshold

/-!
Well-formed records.  Every box has four corners, every label is counted once, and a size that the
record does not know is not known to its metadata either.  Records that were read are well-formed,
and they stay so under a threshold and with another path.
-/

namespace PhotoCatalog

open PhotoCatalog.Number

/-- Whether every box has four corners. -/
def HaveCorners (detections : List Detection) : Prop :=
  ∀ d ∈ detections, ∀ box, d.box = some box → box.length = 4

/-- What holds of every record that is read. -/
structure Record.WellFormed (r : Record) : Prop where
  faces : HaveCorners r.people.detections
  objects : HaveCorners r.objects.detections
  labels : (keysOf r.objects.labelCounts).Nodup
  width : r.width = none → r.metadata.get .width = none
  height : r.height = none → r.metadata.get .height = none

theorem cornersOf_length (item : Value) : (cornersOf item).length = 4 := by
  rw [cornersOf]
  split
  · split
    · assumption
    · rfl
  · rfl

theorem readBox_corners {item : Value} {box : List Int}
    (hread : (readBox item).result = .ok (some box)) : box.length = 4 := by
  rw [readBox] at hread
  split at hread
  · cases hread
  · split at hread
    · rename_i corners hcorners
      obtain rfl : corners = box := by
        cases hread
        rfl
      have hlength := congrArg List.length (mapM_eq_ok.mp hcorners)
      rw [List.length_map, List.length_map, cornersOf_length] at hlength
      exact hlength.symm
    · split at hread
      · cases hread
      · cases hread

theorem Detection.read_corners {label item : Value} {d : Detection}
    (hread : (Detection.read label item).result = .ok d) {box : List Int}
    (hbox : d.box = some box) : box.length = 4 := by
  rw [Detection.read, Reading.bind_result_eq_ok] at hread
  obtain ⟨confidence, -, hread⟩ := hread
  obtain ⟨found, hfound, hread⟩ := Reading.bind_result_eq_ok.mp hread
  cases hread
  exact readBox_corners (hfound.trans (congrArg Except.ok hbox))

theorem readItems_corners {read : Value → Reading Detection}
    (hcorners : ∀ item d, (read item).result = .ok d → ∀ box, d.box = some box → box.length = 4)
    {items : List Value} {detections : List Detection}
    (hread : (readItems read items).result = .ok detections) : HaveCorners detections := by
  induction items generalizing detections with
  | nil =>
      cases hread
      intro d hd
      contradiction
  | cons item items ih =>
      rw [readItems] at hread
      split at hread
      · obtain ⟨first, hfirst, hread⟩ := Reading.bind_result_eq_ok.mp hread
        obtain ⟨rest, hrest, hread⟩ := Reading.bind_result_eq_ok.mp hread
        cases hread
        intro d hd
        rcases List.mem_cons.mp hd with rfl | hd
        · exact hcorners item d hfirst
        · exact ih hrest d hd
      · exact ih hread

theorem readDetections_corners {read : Value → Reading Detection}
    (hcorners : ∀ item d, (read item).result = .ok d → ∀ box, d.box = some box → box.length = 4)
    {document childRows : Value} {detections : List Detection}
    (hread : (readDetections read document childRows).result = .ok detections) :
    HaveCorners detections := by
  unfold readDetections at hread
  split at hread
  · exact readItems_corners hcorners hread
  · exact readItems_corners hcorners hread
  · cases hread
    intro d hd
    contradiction

theorem People.read_corners {document childRows : Value} {row : Row} {p : People}
    (hread : (People.read document row childRows).result = .ok p) : HaveCorners p.detections := by
  rw [People.read, Reading.bind_result_eq_ok] at hread
  obtain ⟨detections, hdetections, hread⟩ := hread
  dsimp only at hread
  split at hread
  -- The faces come from the document or from the detections; the detections stay the same.
  all_goals
    obtain ⟨faces, -, hread⟩ := Reading.bind_result_eq_ok.mp hread
    obtain ⟨count, -, hread⟩ := Reading.bind_result_eq_ok.mp hread
    obtain ⟨success, -, hread⟩ := Reading.bind_result_eq_ok.mp hread
    cases hread
    exact readDetections_corners (fun _ _ hface _ => Detection.read_corners hface) hdetections

/-- Reading counts keeps the labels distinct. -/
theorem readCounts_nodup {entries : List (String × Value)} {before counts : List (String × Int)}
    (hread : (readCounts before entries).result = .ok counts) (hbefore : (keysOf before).Nodup) :
    (keysOf counts).Nodup := by
  induction entries generalizing before with
  | nil =>
      cases hread
      exact hbefore
  | cons entry entries ih =>
      rw [readCounts, Reading.bind_result_eq_ok] at hread
      obtain ⟨n, -, hread⟩ := hread
      cases n with
      | none => exact ih hread hbefore
      | some n => exact ih hread (nodup_setEntry hbefore)

theorem Objects.read_wellFormed {document childRows : Value} {row : Row} {o : Objects}
    (hread : (Objects.read document row childRows).result = .ok o) :
    HaveCorners o.detections ∧ (keysOf o.labelCounts).Nodup := by
  rw [Objects.read, Reading.bind_result_eq_ok] at hread
  obtain ⟨detections, hdetections, hread⟩ := hread
  obtain ⟨count, -, hread⟩ := Reading.bind_result_eq_ok.mp hread
  have hcorners := readDetections_corners
    (fun _ _ hobject _ => Detection.read_corners hobject) hdetections
  dsimp only at hread
  split at hread
  · obtain ⟨counts, hcounts, hread⟩ := Reading.bind_result_eq_ok.mp hread
    cases hread
    exact ⟨hcorners, readCounts_nodup hcounts List.nodup_nil⟩
  · cases hread
    exact ⟨hcorners, tally_nodup (labelsOf detections)⟩

theorem orElse_eq_none {α : Type} {o fallback : Option α}
    (hnone : (o.orElse fun _ => fallback) = none) : fallback = none := by
  cases o with
  | none => exact hnone
  | some a => cases hnone

/-- The record of a row is well-formed. -/
theorem Record.ofRow_wellFormed {row : Row} {r : Record}
    (hread : (Record.ofRow row).result = .ok r) : r.WellFormed := by
  obtain ⟨f, hmake⟩ := Record.ofRow_eq_ok_iff.mp hread
  obtain ⟨hcorners, hlabels⟩ := Objects.read_wellFormed hmake.objects
  exact ⟨People.read_corners hmake.people, hcorners, hlabels,
    fun hnone => orElse_eq_none (hmake.width.symm.trans hnone),
    fun hnone => orElse_eq_none (hmake.height.symm.trans hnone)⟩

/-- The record that a document tells of is well-formed. -/
theorem Record.ofDocument_wellFormed {document : Value} {r : Record}
    (hread : (Record.ofDocument document).result = .ok r) : r.WellFormed := by
  rw [Record.ofDocument] at hread
  obtain ⟨metadata, -, hread⟩ := Reading.bind_result_eq_ok.mp hread
  obtain ⟨width, -, hread⟩ := Reading.bind_result_eq_ok.mp hread
  obtain ⟨height, -, hread⟩ := Reading.bind_result_eq_ok.mp hread
  obtain ⟨description, -, hread⟩ := Reading.bind_result_eq_ok.mp hread
  obtain ⟨people, hpeople, hread⟩ := Reading.bind_result_eq_ok.mp hread
  obtain ⟨objects, hobjects, hread⟩ := Reading.bind_result_eq_ok.mp hread
  obtain ⟨scene, -, hread⟩ := Reading.bind_result_eq_ok.mp hread
  cases hread
  obtain ⟨hcorners, hlabels⟩ := Objects.read_wellFormed hobjects
  exact ⟨People.read_corners hpeople, hcorners, hlabels, orElse_eq_none, orElse_eq_none⟩

theorem HaveCorners.confident {detections : List Detection} (hcorners : HaveCorners detections)
    (threshold : Amount) : HaveCorners (confident threshold detections) :=
  fun d hd => hcorners d ((List.mem_filter.mp hd).1)

/-- A threshold leaves the detections of a well-formed record well-formed. -/
theorem Record.WellFormed.detections {r : Record} (hr : r.WellFormed) (t : Amount) (scene : Scene) :
    { r with
      people := r.people.restrict t, objects := r.objects.restrict t, scene := scene }.WellFormed :=
  ⟨hr.faces.confident t, hr.objects.confident t, tally_nodup _, hr.width, hr.height⟩

theorem Record.WellFormed.restrict {r : Record} (hr : r.WellFormed) (threshold : Option Amount) :
    (r.restrict threshold).WellFormed := by
  cases threshold with
  | none => exact hr
  | some t => exact hr.detections t (r.scene.restrict t)

theorem Record.WellFormed.withPath {r : Record} (hr : r.WellFormed) (path : String) :
    { r with path := path }.WellFormed :=
  ⟨hr.faces, hr.objects, hr.labels, hr.width, hr.height⟩

end PhotoCatalog
