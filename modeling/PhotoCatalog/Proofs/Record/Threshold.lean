import PhotoCatalog.Proofs.Number.Amount
import PhotoCatalog.Record.Threshold

/-!
Thresholds against each other.  A higher threshold leaves fewer detections of a record and makes its
scene unknown more often, so that the record matches fewer criteria, and it is kept less often.
-/

namespace PhotoCatalog

open PhotoCatalog.Number

variable {s t : Amount} {x : Float}

theorem reaches_iff : reaches x t = true ↔ t ≤ .float x := by
  rw [reaches, Amount.le_iff]
  constructor
  · intro hreaches
    split at hreaches
    · contradiction
    · contradiction
    · rename_i hbelow hnone
      obtain ⟨o, hcompare⟩ := Option.ne_none_iff_exists'.mp hnone
      obtain ⟨a, b, ha, hb, rfl⟩ := Amount.compare?_eq_some_iff.mp hcompare
      refine ⟨b, a, hb, ha, Extended.order_ne_gt_iff.mpr fun horder => hbelow ?_⟩
      rw [hcompare, horder]
  · rintro ⟨a, b, ha, hb, hbound⟩
    have hcompare := Amount.compare?_eq_some_iff.mpr ⟨b, a, hb, ha, rfl⟩
    have hreaches := Extended.order_ne_gt_iff.mp hbound
    rw [hcompare]
    cases horder : b.order a with
    | lt => exact absurd horder hreaches
    | eq | gt => rfl

theorem fallsShort_iff : fallsShort x t = true ↔ .float x < t := beq_iff_eq

/-- A threshold that asks for no more than another one; no threshold asks for nothing. -/
def NoStricter : Option Float → Option Float → Prop
  | none, _ => True
  | some _, none => False
  | some s, some t => s ≤ t

/-- The record has only detections that another one has, and its scene, unless it is unknown. -/
structure Record.Within (r s : Record) : Prop where
  people : r.people.detections.Sublist s.people.detections
  objects : r.objects.detections.Sublist s.objects.detections
  scene : r.scene = s.scene ∨ r.scene = .unknown

theorem confident_sublist (hle : s ≤ t) (detections : List Detection) :
    (confident t detections).Sublist (confident s detections) :=
  List.monotone_filter_right detections fun _ hreaches =>
    reaches_iff.mpr (Amount.le_trans hle (reaches_iff.mp hreaches))

/-- A stricter threshold leaves nothing that the other one does not leave. -/
theorem Record.restrict_within {lower upper : Option Float} (hstricter : NoStricter lower upper)
    (r : Record) :
    (r.restrict (upper.map .float)).Within (r.restrict (lower.map .float)) := by
  cases lower with
  | none =>
      cases upper with
      | none => exact ⟨.refl _, .refl _, Or.inl rfl⟩
      | some t =>
          refine ⟨List.filter_sublist, List.filter_sublist, ?_⟩
          change Scene.restrict _ _ = _ ∨ Scene.restrict _ _ = _
          rw [Scene.restrict]
          split
          · exact Or.inr rfl
          · exact Or.inl rfl
  | some s =>
      cases upper with
      | none => exact hstricter.elim
      | some t =>
          have hle : Amount.float s ≤ .float t := Amount.float_le_float_iff.mpr hstricter
          refine ⟨confident_sublist hle _, confident_sublist hle _, ?_⟩
          change Scene.restrict _ _ = Scene.restrict _ _ ∨ Scene.restrict _ _ = _
          rw [Scene.restrict, Scene.restrict]
          by_cases hshort : fallsShort r.scene.confidence (.float t) = true
          · rw [if_pos hshort]
            exact Or.inr rfl
          · have hreaches : ¬ fallsShort r.scene.confidence (.float s) = true := fun h =>
              hshort (fallsShort_iff.mpr (Amount.lt_of_lt_of_le (fallsShort_iff.mp h) hle))
            rw [if_neg hshort, if_neg hreaches]
            exact Or.inl rfl

theorem labelsOf_subset {detections others : List Detection} (hsub : detections.Sublist others) :
    labelsOf detections ⊆ labelsOf others :=
  (hsub.filterMap _).subset

variable {r u : Record}

theorem Record.Within.detected_subset (hwithin : r.Within u) (facet : ListFacet) :
    r.detected facet ⊆ u.detected facet := by
  cases facet with
  | people => exact labelsOf_subset hwithin.people
  | objects => exact labelsOf_subset hwithin.objects
  | scenes =>
      rw [Record.detected, Record.detected]
      rcases hwithin.scene with hscene | hscene
      · rw [hscene]
        exact List.Subset.refl _
      · rw [hscene]
        exact List.nil_subset _
  | _ => exact List.nil_subset _

theorem someMatch_of_subset {tokens labels others : List String} (hsub : labels ⊆ others)
    (hmatch : someMatch tokens labels = true) : someMatch tokens others = true := by
  simp only [someMatch, List.any_eq_true] at hmatch ⊢
  obtain ⟨token, htoken, label, hlabel, hmatch⟩ := hmatch
  exact ⟨token, htoken, label, hsub hlabel, hmatch⟩

theorem Record.Within.stillMatches (hwithin : r.Within u) {c : Criteria}
    (hmatches : r.stillMatches c = true) : u.stillMatches c = true := by
  rw [Record.stillMatches, Bool.and_eq_true, List.all_eq_true] at hmatches ⊢
  exact ⟨hmatches.1, fun asked hasked =>
    someMatch_of_subset (hwithin.detected_subset asked.1) (hmatches.2 asked hasked)⟩

/-- Criteria with another threshold, or with none. -/
def Criteria.withThreshold (c : Criteria) (threshold : Option Float) : Criteria :=
  { c with minConfidence := threshold }

/-- What a threshold keeps, a threshold that is no stricter keeps as well. -/
theorem Record.Within.isKept (hwithin : r.Within u) {c : Criteria} {lower upper : Option Float}
    (hstricter : NoStricter lower upper) (hkept : r.isKept (c.withThreshold upper) = true) :
    u.isKept (c.withThreshold lower) = true := by
  cases lower with
  | none => rfl
  | some s =>
      cases upper with
      | none => exact hstricter.elim
      | some t =>
          rw [Record.isKept, Bool.or_eq_true] at hkept ⊢
          refine hkept.imp id fun hmatches => ?_
          exact hwithin.stillMatches hmatches

end PhotoCatalog
