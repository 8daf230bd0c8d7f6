import PhotoCatalog.Proofs.Record.Tally
import PhotoCatalog.Proofs.Record.Threshold
import PhotoCatalog.Record.Reader

/-!
What a threshold leaves of a record.  The detections that reach it stay, in their order, and what is
told of them is told anew; a scene that falls short is unknown, and everything else stays as it is.
Of several thresholds only the greatest one counts.
-/

namespace PhotoCatalog

open PhotoCatalog.Number

variable {s t : Amount} {detections : List Detection}

theorem confident_eq_filter (t : Amount) (detections : List Detection) :
    confident t detections = detections.filter fun d => t ≤ .float d.confidence := by
  apply List.filter_congr
  intro d _
  rw [Bool.eq_iff_iff, reaches_iff, decide_eq_true_iff]

theorem mem_confident_iff {d : Detection} :
    d ∈ confident t detections ↔ d ∈ detections ∧ t ≤ .float d.confidence := by
  rw [confident, List.mem_filter, reaches_iff]

theorem labelsOf_eq_filter (detections : List Detection) :
    labelsOf detections = (detections.filterMap Detection.label).filter (!·.isEmpty) :=
  List.filter_filterMap.symm

theorem length_labelsOf (detections : List Detection) :
    (labelsOf detections).length = detections.countP fun d => d.label.any (!·.isEmpty) := by
  rw [labelsOf, List.length_filterMap_eq_countP]
  simp only [properLabel?, Option.isSome_filter]

/-- What is left of a record under a threshold, told by the record and the threshold alone. -/
structure Record.Leaves (r : Record) (t : Amount) (left : Record) : Prop where
  people : left.people.detections = r.people.detections.filter fun d => t ≤ .float d.confidence
  objects : left.objects.detections = r.objects.detections.filter fun d => t ≤ .float d.confidence
  peopleCount : left.people.count = left.people.detections.length
  objectCount : left.objects.count = left.objects.detections.length
  faces : left.people.faces =
    (left.people.detections.filterMap Detection.label).filter (!·.isEmpty)
  labelCounts :
    let labels := (left.objects.detections.filterMap Detection.label).filter (!·.isEmpty)
    left.objects.labelCounts = labels.eraseDups.map fun label => (label, (labels.count label : Int))
  total : (left.objects.labelCounts.map Prod.snd).sum =
    left.objects.detections.countP fun d => d.label.any (!·.isEmpty)
  scene : left.scene = if .float r.scene.confidence < t then .unknown else r.scene
  success : left.people.success = r.people.success
  path : left.path = r.path
  width : left.width = r.width
  height : left.height = r.height
  metadata : left.metadata = r.metadata
  description : left.description = r.description

theorem Scene.restrict_eq (t : Amount) (scene : Scene) :
    scene.restrict t = if .float scene.confidence < t then .unknown else scene := by
  rw [restrict]
  simp only [fallsShort_iff]

/-- A threshold leaves the detections that reach it and tells them anew, whatever the record told
of its detections before; no threshold leaves everything as it is. -/
theorem Record.restrict_leaves (r : Record) :
    r.restrict none = r ∧ ∀ t, r.Leaves t (r.restrict (some t)) := by
  refine ⟨rfl, fun t => ?_⟩
  constructor
  case people => exact confident_eq_filter t r.people.detections
  case objects => exact confident_eq_filter t r.objects.detections
  case faces => exact labelsOf_eq_filter (confident t r.people.detections)
  case labelCounts =>
    intro labels
    have hlabels : labelsOf (confident t r.objects.detections) = labels := labelsOf_eq_filter _
    change tally (labelsOf (confident t r.objects.detections)) = _
    rw [hlabels, tally_eq]
  case total =>
    change ((tally (labelsOf (confident t r.objects.detections))).map Prod.snd).sum = _
    rw [sum_tally, length_labelsOf]
    rfl
  case scene => exact r.scene.restrict_eq t
  all_goals rfl

/-- A confidence reaches the greater one of two thresholds when it reaches both. -/
theorem reaches_max (hs : s.isNaN = false) (ht : t.isNaN = false) (x : Float) :
    reaches x (max s t) = (reaches x s && reaches x t) := by
  rw [Bool.eq_iff_iff, Bool.and_eq_true, reaches_iff, reaches_iff, reaches_iff,
    Amount.max_le_iff hs ht]

/-- A confidence falls short of the greater one of two thresholds when it falls short of one. -/
theorem fallsShort_max (hs : s.isNaN = false) (ht : t.isNaN = false) (x : Float) :
    fallsShort x (max s t) = (fallsShort x s || fallsShort x t) := by
  rw [Bool.eq_iff_iff, Bool.or_eq_true, fallsShort_iff, fallsShort_iff, fallsShort_iff,
    Amount.lt_max_iff hs ht]

theorem confident_confident (hs : s.isNaN = false) (ht : t.isNaN = false)
    (detections : List Detection) :
    confident t (confident s detections) = confident (max s t) detections := by
  rw [confident, confident, List.filter_filter]
  apply List.filter_congr
  intro d _
  rw [reaches_max hs ht, Bool.and_comm]

/-- The scene that is not known stays unknown. -/
theorem Scene.restrict_unknown (t : Amount) : Scene.unknown.restrict t = .unknown := by
  rw [restrict]
  split <;> rfl

theorem Scene.restrict_restrict (hs : s.isNaN = false) (ht : t.isNaN = false) (scene : Scene) :
    (scene.restrict s).restrict t = scene.restrict (max s t) := by
  cases hshort : fallsShort scene.confidence s with
  | true =>
      have hunknown : scene.restrict s = .unknown := if_pos hshort
      rw [hunknown, restrict_unknown, restrict, fallsShort_max hs ht, hshort]
      rfl
  | false =>
      have hsame : scene.restrict s = scene := if_neg (by rw [hshort]; exact Bool.false_ne_true)
      rw [hsame, restrict, restrict, fallsShort_max hs ht, hshort, Bool.false_or]

/-- Two thresholds one after the other leave what the greater one leaves. -/
theorem Record.restrict_restrict (hs : s.isNaN = false) (ht : t.isNaN = false) (r : Record) :
    (r.restrict (some s)).restrict (some t) = r.restrict (some (max s t)) := by
  have hpeople : (r.people.restrict s).restrict t = r.people.restrict (max s t) := by
    simp only [People.restrict, confident_confident hs ht]
  have hobjects : (r.objects.restrict s).restrict t = r.objects.restrict (max s t) := by
    simp only [Objects.restrict, confident_confident hs ht]
  simp only [restrict, hpeople, hobjects, Scene.restrict_restrict hs ht]

/-- A record is left the same by thresholds that every confidence treats alike. -/
theorem Record.restrict_congr (hreaches : ∀ x, reaches x s = reaches x t)
    (hshort : ∀ x, fallsShort x s = fallsShort x t) (r : Record) :
    r.restrict (some s) = r.restrict (some t) := by
  have hconfident : confident s = confident t :=
    funext fun detections => List.filter_congr fun d _ => hreaches d.confidence
  simp only [restrict, People.restrict, Objects.restrict, Scene.restrict, hconfident, hshort]

theorem Record.restrict_max_comm (hs : s.isNaN = false) (ht : t.isNaN = false) (r : Record) :
    r.restrict (some (max s t)) = r.restrict (some (max t s)) := by
  apply restrict_congr
  · intro x
    rw [reaches_max hs ht, reaches_max ht hs, Bool.and_comm]
  · intro x
    rw [fallsShort_max hs ht, fallsShort_max ht hs, Bool.or_comm]

/-- Two thresholds leave the same record in either order, which is what the greater one leaves, and
a threshold leaves nothing more to do for itself. -/
theorem Record.restrict_either_order (hs : s.isNaN = false) (ht : t.isNaN = false) (r : Record) :
    let inOrder := (r.restrict (some s)).restrict (some t)
    let swapped := (r.restrict (some t)).restrict (some s)
    let atOnce := r.restrict (some (max s t))
    (inOrder = atOnce ∧ inOrder.hasDetections = atOnce.hasDetections) ∧
    (swapped = atOnce ∧ swapped.hasDetections = atOnce.hasDetections) ∧
    (r.restrict (some s)).restrict (some s) = r.restrict (some s) := by
  intro inOrder swapped atOnce
  have hinOrder : inOrder = atOnce := r.restrict_restrict hs ht
  have hswapped : swapped = atOnce :=
    (r.restrict_restrict ht hs).trans (r.restrict_max_comm ht hs)
  have hmax : max s s = s := ite_self s
  refine ⟨⟨hinOrder, by rw [hinOrder]⟩, ⟨hswapped, by rw [hswapped]⟩, ?_⟩
  rw [r.restrict_restrict hs hs, hmax]

/-- A record with a face and a scene that nobody knows how sure they are. -/
def Record.blurred : Record where
  path := "/photos/a.jpg"
  width := none
  height := none
  metadata := .empty
  description := ⟨false, false, none, none, none, [], none, none⟩
  people := ⟨7, ["Ann"], [⟨0.75, none, some "Ann"⟩, ⟨undefined, none, some "Bob"⟩], true⟩
  objects := ⟨1, [⟨1.0, none, none⟩], [("dog", 2)]⟩
  scene := ⟨"beach", undefined, 0.0, true⟩

/-- Behind a half, a threshold of one leaves what it leaves by itself. -/
theorem Record.blurred_restrict_either_order :
    (Record.blurred.restrict (some (.float 0.5))).restrict (some (.int 1)) =
      Record.blurred.restrict (some (.int 1)) := by
  have hhalf : (Amount.float 0.5).isNaN = false := by decide +kernel
  have hone : (Amount.int 1).isNaN = false := rfl
  have hmax : max (Amount.float 0.5) (.int 1) = .int 1 := if_pos (by decide +kernel)
  have hatOnce := (Record.restrict_either_order hhalf hone Record.blurred).1.1
  rwa [hmax] at hatOnce

theorem Record.hasDetections_iff {r : Record} : r.hasDetections = true ↔
    (∃ d, d ∈ r.people.detections) ∨ (∃ d, d ∈ r.objects.detections) ∨ r.scene.success = true := by
  rw [hasDetections, Bool.or_eq_true, Bool.or_eq_true, Bool.not_eq_true', Bool.not_eq_true',
    List.isEmpty_eq_false_iff_exists_mem, List.isEmpty_eq_false_iff_exists_mem, or_assoc]

/-- A scene counts under a threshold when it counts without one and does not fall short, which it
does not either when its confidence is undefined. -/
theorem Scene.success_restrict_iff (ht : t.isNaN = false) (scene : Scene) :
    (scene.restrict t).success = true ↔ scene.success = true ∧
      (t ≤ .float scene.confidence ∨ isNaN scene.confidence = true) := by
  have hstays : ¬ .float scene.confidence < t ↔
      t ≤ .float scene.confidence ∨ isNaN scene.confidence = true := Amount.not_lt_iff ht
  rw [restrict_eq, ← hstays]
  split
  · rename_i hshort
    exact ⟨nofun, fun h => absurd hshort h.2⟩
  · rename_i hreaches
    exact ⟨fun h => ⟨h, hreaches⟩, And.left⟩

/-- Whether a face, an object or a scene that counts is at least as sure as a threshold asks. -/
def Record.HasConfident (threshold : Amount) (r : Record) : Prop :=
  (∃ d ∈ r.people.detections, threshold ≤ .float d.confidence) ∨
    (∃ d ∈ r.objects.detections, threshold ≤ .float d.confidence) ∨
    r.scene.success = true ∧ threshold ≤ .float r.scene.confidence

instance (threshold : Amount) (r : Record) : Decidable (r.HasConfident threshold) := by
  unfold Record.HasConfident
  infer_instance

/-- A record has detections under a threshold exactly when it has some that reach it, or when its
scene counts with an undefined confidence.  The faces and objects that are left all reach the
threshold, and so does a scene that counts, unless its confidence is undefined. -/
theorem Record.hasDetections_restrict_iff (ht : t.isNaN = false) (r : Record) :
    let left := r.restrict (some t)
    (left.hasDetections = true ↔
      r.HasConfident t ∨ r.scene.success = true ∧ isNaN r.scene.confidence = true) ∧
    (∀ d ∈ left.people.detections, t ≤ .float d.confidence) ∧
    (∀ d ∈ left.objects.detections, t ≤ .float d.confidence) ∧
    (left.scene.success = true →
      t ≤ .float left.scene.confidence ∨ isNaN left.scene.confidence = true) := by
  intro left
  have hpeople : ∀ d, d ∈ left.people.detections ↔
      d ∈ r.people.detections ∧ t ≤ .float d.confidence := fun _ => mem_confident_iff
  have hobjects : ∀ d, d ∈ left.objects.detections ↔
      d ∈ r.objects.detections ∧ t ≤ .float d.confidence := fun _ => mem_confident_iff
  have hscene : left.scene.success = true ↔ r.scene.success = true ∧
      (t ≤ .float r.scene.confidence ∨ isNaN r.scene.confidence = true) :=
    r.scene.success_restrict_iff ht
  refine ⟨?_, fun d hd => ((hpeople d).mp hd).2, fun d hd => ((hobjects d).mp hd).2, fun h => ?_⟩
  · simp only [hasDetections_iff, hpeople, hobjects, hscene, HasConfident, and_or_left, or_assoc]
  · have hstays := (hscene.mp h).2
    have hsame : left.scene = r.scene := by
      refine (r.scene.restrict_eq t).trans (if_neg fun hshort => ?_)
      exact (Amount.not_lt_iff ht).mpr hstays hshort
    rwa [hsame]

/-- A threshold that a face just reaches leaves detections, and so does any other one, since the
confidence of the scene is undefined. -/
theorem Record.blurred_hasDetections_restrict :
    (Record.blurred.restrict (some (.float 0.75))).hasDetections = true ∧
      (Record.blurred.restrict (some (.float infinity))).hasDetections = true := by
  have hface : (Amount.float 0.75).isNaN = false := by decide +kernel
  have hbeyond : (Amount.float infinity).isNaN = false := by decide +kernel
  constructor
  · refine (Record.hasDetections_restrict_iff hface Record.blurred).1.mpr (Or.inl ?_)
    decide +kernel
  · refine (Record.hasDetections_restrict_iff hbeyond Record.blurred).1.mpr (Or.inr ⟨rfl, ?_⟩)
    decide +kernel

theorem exists_result_of_any {reading : Reading Record} {P : Record → Prop} [DecidablePred P]
    (hany : reading.result.toOption.any (fun r => decide (P r)) = true) :
    ∃ r, reading.result = .ok r ∧ P r := by
  cases hresult : reading.result with
  | error fault =>
      rw [hresult] at hany
      cases hany
  | ok r =>
      rw [hresult] at hany
      exact ⟨r, rfl, of_decide_eq_true hany⟩

/-- Such a record comes from a row as well as from a document, since the confidence of a scene may
be any double. -/
theorem undefined_scene_has_detections :
    (∃ r, (Record.ofRow [("path", .text "a.jpg"), ("scene_label", .text "beach"),
        ("scene_confidence", .text "nan")]).result = .ok r ∧
      (r.restrict (some (.float 0.5))).hasDetections = true ∧ ¬ r.HasConfident (.float 0.5)) ∧
    ∃ r, (Record.ofDocument (.map [("Scenes",
        .map [("Label", .text "beach"), ("Confidence", .float undefined)])])).result = .ok r ∧
      (r.restrict (some (.float 0.5))).hasDetections = true ∧ ¬ r.HasConfident (.float 0.5) :=
  ⟨exists_result_of_any (by decide +kernel), exists_result_of_any (by decide +kernel)⟩

end PhotoCatalog
