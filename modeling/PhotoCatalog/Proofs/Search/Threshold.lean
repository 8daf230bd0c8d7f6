import PhotoCatalog.Proofs.Catalog.Accepted
import PhotoCatalog.Proofs.Record.Threshold
import PhotoCatalog.Proofs.Search.Detections

/-!
Searches that differ in their threshold.  The query knows nothing of it, so that such searches go
through the same rows: a stricter threshold finds no more images, and of an image that both searches
find it shows no more detections.
-/

namespace PhotoCatalog.Search

open PhotoCatalog.Catalog PhotoCatalog.Query

variable {task : Task} {ending : Option Fault} {seen : Seen} {rows : List Row}

/-- A record that a search finds is that of a row, once the threshold has been applied. -/
theorem found_of_advance (hembeds : task.embeds = false)
    (hfault : (task.advance ending seen none (rows.map .row)).fault = none) {found : Record}
    (hfound : found ∈ (task.advance ending seen none (rows.map .row)).records) :
    ∃ row ∈ rows, ∃ record, (Record.ofRow row).result = .ok record ∧
      task.keeps record = true ∧ found = task.restricted record := by
  induction rows generalizing seen with
  | nil => simp [Task.advance] at hfound
  | cons row rest ih =>
      rw [List.map_cons] at hfault hfound
      obtain ⟨outcome, seen', hjudged, hrest, hrecords⟩ := advance_cons_of_no_fault hfault
      rw [hrecords, List.mem_append] at hfound
      rcases hfound with hhead | htail
      · refine ⟨row, List.mem_cons_self, ?_⟩
        cases hjudged with
        | rowSeen | rowDropped | imageSeen => cases hhead
        | @imageNew _ record _ hread _ hkept =>
            refine ⟨record, hread, hkept, ?_⟩
            rw [hembeds] at hhead
            rw [List.mem_singleton.mp hhead, if_neg Bool.false_ne_true, ← task.restricted_path]
        | @rowNew _ record hread _ hkept =>
            exact ⟨record, hread, hkept, List.mem_singleton.mp hhead⟩
      · obtain ⟨other, hother, hrest⟩ := ih hrest htail
        exact ⟨other, List.mem_cons_of_mem row hother, hrest⟩

/-- Where nothing that is found looks like an embedded image, the path of every record that is kept
is found or has been seen. -/
theorem found_of_keeps (hembeds : task.embeds = false) (hseen : seen.hasEmbedded = false)
    (hfault : (task.advance ending seen none (rows.map .row)).fault = none)
    (hplain : ∀ found ∈ (task.advance ending seen none (rows.map .row)).records,
      isEmbedded found.path = false)
    {row : Row} (hrow : row ∈ rows) {record : Record}
    (hread : (Record.ofRow row).result = .ok record) (hkept : task.keeps record = true) :
    record.path ∈ seen.paths ∨
      record.path ∈ (task.advance ending seen none (rows.map .row)).records.map (·.path) := by
  -- What has been seen grows by the paths that are found, so images are never looked at.
  induction rows generalizing seen with
  | nil => cases hrow
  | cons head rest ih =>
      rw [List.map_cons] at hfault hplain ⊢
      obtain ⟨outcome, seen', hjudged, hrest, hrecords⟩ := advance_cons_of_no_fault hfault
      rw [hrecords] at hplain ⊢
      have hlooks := Task.looks_eq_false hembeds hseen
      rw [List.map_append, List.mem_append]
      have hplainRest := fun found hfound => hplain found (List.mem_append_right _ hfound)
      have hsame : ∀ {other}, (Record.ofRow head).result = .ok other → row = head →
          other = record := by
        rintro other hother rfl
        exact Except.ok.inj (hother.symm.trans hread)
      cases hjudged with
      | rowSeen hother hold =>
          rcases List.mem_cons.mp hrow with heq | hmem
          · exact Or.inl (hsame hother heq ▸ hold)
          · exact (ih hseen hrest hplainRest hmem).imp id Or.inr
      | rowDropped hother _ hdropped =>
          rcases List.mem_cons.mp hrow with heq | hmem
          · rw [hsame hother heq, hkept] at hdropped
            cases hdropped
          · exact (ih hseen hrest hplainRest hmem).imp id Or.inr
      | imageSeen _ _ _ hlooked | imageNew _ _ _ hlooked =>
          rw [hlooks] at hlooked
          cases hlooked
      | @rowNew _ other hother =>
          have hpath := task.restricted_path other
          have hhead := hplain (task.restricted other) (List.mem_append_left _ List.mem_cons_self)
          rw [hpath] at hhead
          rcases List.mem_cons.mp hrow with heq | hmem
          · obtain rfl := hsame hother heq
            exact Or.inr (Or.inl (List.mem_singleton.mpr hpath.symm))
          · rcases ih (hasEmbedded_insert hseen hhead) hrest hplainRest hmem with hold | hfound
            · rcases Seen.mem_insert.mp hold with heq | hold
              · exact Or.inr (Or.inl (List.mem_singleton.mpr (heq.trans hpath.symm)))
              · exact Or.inl hold
            · exact Or.inr (Or.inr hfound)

/-- The query does not depend on the threshold. -/
theorem compile_withThreshold (c : Criteria) (threshold : Option Float) :
    compile (c.withThreshold threshold) = compile c := rfl

variable {folder : Image.Folder} {catalog : Catalog} {c : Criteria} {lower upper : Option Float}

/-- Searches that differ in their threshold go through the same rows. -/
theorem fresh_withThreshold (hsucceeds : Succeeds folder catalog (c.withThreshold lower))
    (hother : Succeeds folder catalog (c.withThreshold upper)) :
    ∃ statement, (catalog.answer statement).fault = none ∧
      fresh folder catalog (c.withThreshold lower) =
        (Task.mk (c.withThreshold lower) false folder).advance none .empty none
          ((catalog.answer statement).rows.map .row) ∧
      fresh folder catalog (c.withThreshold upper) =
        (Task.mk (c.withThreshold upper) false folder).advance none .empty none
          ((catalog.answer statement).rows.map .row) := by
  obtain ⟨statement, hcompile, hanswer, hfresh⟩ := fresh_eq_of_succeeds hsucceeds
  obtain ⟨other, hcompile', -, hfresh'⟩ := fresh_eq_of_succeeds hother
  rw [compile_withThreshold] at hcompile hcompile'
  obtain rfl := Except.ok.inj (hcompile.symm.trans hcompile')
  exact ⟨statement, hanswer, hfresh, hfresh'⟩

/-- What a threshold keeps, a threshold that is no stricter keeps as well. -/
theorem keeps_of_noStricter (hstricter : NoStricter lower upper) {record : Record}
    (hkept : (Task.mk (c.withThreshold upper) false folder).keeps record = true) :
    (Task.mk (c.withThreshold lower) false folder).keeps record = true :=
  (record.restrict_within hstricter).isKept hstricter hkept

/-- A stricter threshold finds no further images. -/
theorem foundPaths_subset (hstricter : NoStricter lower upper)
    (hlower : Succeeds folder catalog (c.withThreshold lower))
    (hupper : Succeeds folder catalog (c.withThreshold upper))
    (hplain : ∀ path ∈ foundPaths folder catalog (c.withThreshold lower),
      isEmbedded path = false) :
    foundPaths folder catalog (c.withThreshold upper) ⊆
      foundPaths folder catalog (c.withThreshold lower) := by
  obtain ⟨statement, -, hfresh, hfresh'⟩ := fresh_withThreshold hlower hupper
  rw [Succeeds, hfresh] at hlower
  rw [Succeeds, hfresh'] at hupper
  simp only [foundPaths, hfresh, hfresh', List.forall_mem_map] at hplain ⊢
  intro path hpath
  obtain ⟨found, hfound, rfl⟩ := List.mem_map.mp hpath
  obtain ⟨row, hrow, record, hread, hkept, rfl⟩ := found_of_advance rfl hupper hfound
  rw [Task.restricted_path]
  exact (found_of_keeps rfl rfl hlower hplain hrow hread
    (keeps_of_noStricter hstricter hkept)).resolve_left List.not_mem_nil

/-- Of an image that both searches find, the one with the stricter threshold shows no more. -/
theorem found_within (hpaths : (catalog.images.map ImageRow.pathName).Nodup)
    (hstricter : NoStricter lower upper)
    (hlower : Succeeds folder catalog (c.withThreshold lower))
    (hupper : Succeeds folder catalog (c.withThreshold upper)) {low high : Record}
    (hlow : low ∈ (fresh folder catalog (c.withThreshold lower)).records)
    (hhigh : high ∈ (fresh folder catalog (c.withThreshold upper)).records)
    (hsame : high.path = low.path) : high.Within low := by
  obtain ⟨statement, hanswer, hfresh, hfresh'⟩ := fresh_withThreshold hlower hupper
  rw [Succeeds, hfresh] at hlower
  rw [Succeeds, hfresh'] at hupper
  rw [hfresh] at hlow
  rw [hfresh'] at hhigh
  obtain ⟨row, hrow, record, hread, -, rfl⟩ := found_of_advance rfl hlower hlow
  obtain ⟨row', hrow', record', hread', -, rfl⟩ := found_of_advance rfl hupper hhigh
  rw [Task.restricted_path, Task.restricted_path] at hsame
  obtain ⟨image, himage, -, hresult⟩ := (mem_answer_rows hanswer).mp hrow
  obtain ⟨image', himage', -, hresult'⟩ := (mem_answer_rows hanswer).mp hrow'
  have hname : ∀ {image : ImageRow} {row record}, catalog.resultRow image = .ok row →
      (Record.ofRow row).result = .ok record → record.path = image.pathName := by
    intro image row record hresult hread
    rw [Record.path_of_ofRow hread, rowPath, resultRow_path hresult, ImageRow.pathName]
  have hnames : image'.pathName = image.pathName :=
    (hname hresult' hread').symm.trans (hsame.trans (hname hresult hread))
  obtain rfl := List.inj_on_of_nodup_map hpaths himage' himage hnames
  obtain rfl := Except.ok.inj (hresult.symm.trans hresult')
  obtain rfl := Except.ok.inj (hread.symm.trans hread')
  exact record.restrict_within hstricter

/-- Raising the threshold of a fresh search: it finds no further images and shows no further
detections of those that it finds. -/
theorem raising_threshold_finds_less (hpaths : (catalog.images.map ImageRow.pathName).Nodup)
    {s t : Float} (hle : s ≤ t) (hnone : Succeeds folder catalog (c.withThreshold none))
    (hlower : Succeeds folder catalog (c.withThreshold (some s)))
    (hupper : Succeeds folder catalog (c.withThreshold (some t))) :
    ((∀ path ∈ foundPaths folder catalog (c.withThreshold (some s)), isEmbedded path = false) →
      foundPaths folder catalog (c.withThreshold (some t)) ⊆
        foundPaths folder catalog (c.withThreshold (some s))) ∧
    ((∀ path ∈ foundPaths folder catalog (c.withThreshold none), isEmbedded path = false) →
      foundPaths folder catalog (c.withThreshold (some s)) ⊆
        foundPaths folder catalog (c.withThreshold none)) ∧
    ∀ low ∈ (fresh folder catalog (c.withThreshold (some s))).records,
      ∀ high ∈ (fresh folder catalog (c.withThreshold (some t))).records, high.path = low.path →
        high.people.detections.Sublist low.people.detections ∧
          high.objects.detections.Sublist low.objects.detections ∧
          (high.scene = low.scene ∨ high.scene = .unknown) := by
  have hstricter : NoStricter (some s) (some t) := hle
  refine ⟨foundPaths_subset hstricter hlower hupper, foundPaths_subset trivial hnone hlower, ?_⟩
  intro low hlow high hhigh hsame
  have hwithin := found_within hpaths hstricter hlower hupper hlow hhigh hsame
  exact ⟨hwithin.people, hwithin.objects, hwithin.scene⟩

/-- Two images of which the second one loses its only match when the threshold is raised. -/
def strangersCatalog : Catalog :=
  ofPeople [("a.jpg", [(.text "ann", .real 1.0), (.text "bob", .null)]),
    ("b.jpg", [(.text "ann", .null)])]

def annCriteria : Criteria := facetCriteria .people ["ann"] none

theorem raising_threshold_finds_less_strangers :
    foundPaths ⟨[]⟩ strangersCatalog (annCriteria.withThreshold (some 0.5)) = ["a.jpg"] ∧
      foundPaths ⟨[]⟩ strangersCatalog (annCriteria.withThreshold (some 0.5)) ⊆
        foundPaths ⟨[]⟩ strangersCatalog (annCriteria.withThreshold (some 0.0)) ∧
      foundPaths ⟨[]⟩ strangersCatalog (annCriteria.withThreshold (some 0.0)) ⊆
        foundPaths ⟨[]⟩ strangersCatalog (annCriteria.withThreshold none) ∧
      ∀ low ∈ (fresh ⟨[]⟩ strangersCatalog (annCriteria.withThreshold (some 0.0))).records,
        ∀ high ∈ (fresh ⟨[]⟩ strangersCatalog (annCriteria.withThreshold (some 0.5))).records,
          high.path = low.path → high.people.detections.Sublist low.people.detections := by
  -- The rows are read once for all of these facts.
  have hsearches :
      (∀ threshold ∈ [none, some 0.0, some 0.5],
        Succeeds ⟨[]⟩ strangersCatalog (annCriteria.withThreshold threshold) ∧
          ∀ path ∈ foundPaths ⟨[]⟩ strangersCatalog (annCriteria.withThreshold threshold),
            isEmbedded path = false) ∧
      foundPaths ⟨[]⟩ strangersCatalog (annCriteria.withThreshold (some 0.5)) = ["a.jpg"] := by
    decide +kernel
  obtain ⟨hall, hfound⟩ := hsearches
  obtain ⟨hnone, hplain⟩ := hall none (by simp)
  obtain ⟨hlower, hplain'⟩ := hall (some 0.0) (by simp)
  obtain ⟨hupper, -⟩ := hall (some 0.5) (by simp)
  obtain ⟨hraised, hset, hwithin⟩ := raising_threshold_finds_less (by decide +kernel)
    (show (0.0 : Float) ≤ 0.5 by decide +kernel) hnone hlower hupper
  refine ⟨hfound, hraised hplain', hset hplain, ?_⟩
  intro low hlow high hhigh hsame
  exact (hwithin low hlow high hhigh hsame).1

/-- A path that looks like an embedded image makes the search compare images.  A higher threshold
that drops it finds both of two equal images, of which the lower one leaves out the second. -/
theorem raising_threshold_finds_more :
    ¬ ∀ folder catalog (c : Criteria) (s t : Float), catalog.HasTextPaths → 0.0 ≤ s → s ≤ t →
      t ≤ 1.0 →
      (∀ threshold ∈ [none, some s, some t], Succeeds folder catalog (c.withThreshold threshold)) →
      foundPaths folder catalog (c.withThreshold (some t)) ⊆
        foundPaths folder catalog (c.withThreshold (some s)) := by
  intro hall
  let folder := Image.Folder.ofList [("x.jpg", [1]), ("y.jpg", [1])]
  let catalog := ofPeople [("data:a", [(.text "ann", .null)]),
    ("x.jpg", [(.text "ann", .real 1.0)]), ("y.jpg", [(.text "ann", .real 1.0)])]
  have hpaths : catalog.HasTextPaths := by
    refine ⟨?_, by decide +kernel⟩
    simp [catalog, ofPeople, Catalog.insert, Catalog.empty, Cell.stored, Cell.numberText]
  obtain ⟨hsucceeds, hmissed, hfound⟩ :
      (∀ threshold ∈ [none, some 0.0, some 0.5],
        Succeeds folder catalog (annCriteria.withThreshold threshold)) ∧
      "y.jpg" ∉ foundPaths folder catalog (annCriteria.withThreshold (some 0.0)) ∧
      "y.jpg" ∈ foundPaths folder catalog (annCriteria.withThreshold (some 0.5)) := by
    decide +kernel
  exact hmissed (hall folder catalog annCriteria 0.0 0.5 hpaths (by decide +kernel)
    (by decide +kernel) (by decide +kernel) hsucceeds hfound)

end PhotoCatalog.Search
