import PhotoCatalog.Proofs.Catalog.Holds
import PhotoCatalog.Proofs.Catalog.PathOrder

/-!
What an answer without a fault delivers.  However the catalog goes about it, such an answer has
checked every image to the end, and its rows are those of the images that satisfy all conditions, in
the order of their paths.
-/

namespace PhotoCatalog.Catalog

open PhotoCatalog.Query

/-- An image satisfies all conditions of a query. -/
def Selects (catalog : Catalog) (conditions : List Condition) (image : ImageRow) : Prop :=
  ∀ condition ∈ conditions, (catalog.subject image).Holds condition

theorem mem_checkOrder {conditions : List Condition} {condition : Condition} :
    condition ∈ checkOrder conditions ↔ condition ∈ conditions := by
  simp only [checkOrder, List.mem_append]
  rw [or_assoc, ← List.mem_partition, ← List.mem_partition]

/-- The order in which conditions are checked does not matter for what they select. -/
theorem selects_checkOrder {catalog : Catalog} {conditions : List Condition} {image : ImageRow} :
    catalog.Selects (checkOrder conditions) image ↔ catalog.Selects conditions image := by
  simp only [Selects, mem_checkOrder]

theorem resultRow_path {catalog : Catalog} {image : ImageRow} {row : Row}
    (hrow : catalog.resultRow image = .ok row) : row.get "path" = image.path.toValue := by
  rw [resultRow, bind_eq_ok] at hrow
  obtain ⟨people, _, hrow⟩ := hrow
  obtain ⟨objects, _, hrow⟩ := bind_eq_ok.mp hrow
  simp only [pure_eq_ok] at hrow
  simp [← hrow, Row.get, List.lookup_cons]

/-- Selecting an image that has been checked to the end: its row, or nothing. -/
theorem select_eq_ok {catalog : Catalog} {conditions : List Condition} {image : ImageRow}
    {outcome : Option Row} (hselect : catalog.select conditions image = .ok outcome) :
    (∃ selected, (catalog.subject image).isSelected conditions = .ok selected) ∧
      match outcome with
      | some row => catalog.Selects conditions image ∧ row.get "path" = image.path.toValue
      | none => ¬ catalog.Selects conditions image := by
  obtain ⟨selected, hselected, hselect⟩ := bind_eq_ok.mp hselect
  have hiff := Subject.isSelected_eq_true_iff hselected
  refine ⟨⟨selected, hselected⟩, ?_⟩
  cases selected with
  | true =>
      obtain ⟨row, hrow, hselect⟩ := bind_eq_ok.mp hselect
      simp only [pure_eq_ok] at hselect
      subst hselect
      exact ⟨hiff.mp rfl, resultRow_path hrow⟩
  | false =>
      simp only [Bool.false_eq_true, ↓reduceIte, pure_eq_ok] at hselect
      subst hselect
      exact fun hall => Bool.noConfusion (hiff.mpr hall)

/-- The images that a query selects out of those that it has checked. -/
theorem exists_chosen {catalog : Catalog} {conditions : List Condition} {images : List ImageRow}
    {outcomes : List (Option Row)}
    (hall : images.map (catalog.select conditions) = outcomes.map .ok) :
    ∃ chosen : List ImageRow, chosen.Sublist images ∧
      (outcomes.filterMap id).map (Row.get · "path") = chosen.map (·.path.toValue) ∧
      (∀ image ∈ images, catalog.Selects conditions image → image ∈ chosen) ∧
      ∀ image ∈ chosen, catalog.Selects conditions image := by
  induction images generalizing outcomes with
  | nil =>
      have hnil : outcomes = [] := by simpa using hall.symm
      exact ⟨[], by simp [hnil]⟩
  | cons image rest ih =>
      cases outcomes with
      | nil => simp at hall
      | cons outcome outcomes =>
          simp only [List.map_cons, List.cons.injEq] at hall
          obtain ⟨chosen, hsub, hpaths, hcomplete, hsound⟩ := ih hall.2
          have himage := (select_eq_ok hall.1).2
          cases outcome with
          | none =>
              refine ⟨chosen, hsub.cons image, by simpa using hpaths, ?_, hsound⟩
              intro other hother hselects
              rcases List.mem_cons.mp hother with rfl | hother
              · exact absurd hselects himage
              · exact hcomplete other hother hselects
          | some row =>
              refine ⟨image :: chosen, hsub.cons_cons image, ?_, ?_, ?_⟩
              · rw [List.filterMap_cons_some (rfl : id (some row) = some row), List.map_cons,
                  List.map_cons, himage.2, hpaths]
              · intro other hother hselects
                rcases List.mem_cons.mp hother with rfl | hother
                · exact List.mem_cons_self
                · exact List.mem_cons_of_mem image (hcomplete other hother hselects)
              · exact List.forall_mem_cons.mpr ⟨himage.1, hsound⟩

theorem rowsUpToFault_eq {results : List (Except Fault (Option Row))}
    (hfault : (rowsUpToFault results).fault = none) :
    ∃ outcomes : List (Option Row), results = outcomes.map .ok ∧
      (rowsUpToFault results).rows = outcomes.filterMap id := by
  fun_induction rowsUpToFault results with
  | case1 => exact ⟨[], rfl, rfl⟩
  | case2 fault rest => simp [Answer.failed] at hfault
  | case3 rest ih =>
      obtain ⟨outcomes, hresults, hrows⟩ := ih hfault
      exact ⟨none :: outcomes, by simp [hresults], by simpa using hrows⟩
  | case4 row rest answer ih =>
      obtain ⟨outcomes, hresults, hrows⟩ := ih hfault
      exact ⟨some row :: outcomes, by simp [hresults], by simp [answer, hrows]⟩

/-- Where no fault ends the answer, every image has been checked to the end, and the rows are those
that were selected. -/
theorem answer_eq_of_no_fault {catalog : Catalog} {statement : Statement}
    (hfault : (catalog.answer statement).fault = none) :
    ∃ outcomes : List (Option Row),
      catalog.byPath.map (catalog.select (checkOrder statement.conditions)) =
        outcomes.map .ok ∧
      (catalog.answer statement).rows = outcomes.filterMap id := by
  revert hfault
  rw [answer]
  split
  · simp [Answer.failed]
  · split
    · simp [Answer.failed]
    · dsimp only
      split
      · split
        · rename_i outcomes houtcomes
          intro _
          exact ⟨outcomes, by simpa using mapM_eq_ok.mp houtcomes, rfl⟩
        · simp [Answer.failed]
      · intro hfault
        rw [Answer.fetchedAhead] at hfault ⊢
        split at hfault
        · rename_i hsome
          simp_all
        · rename_i hnone
          rw [if_neg hnone]
          exact rowsUpToFault_eq hfault

/-- The rows of an answer without a fault: those of the images that the query selects, in the order
of their paths. -/
theorem answer_paths {catalog : Catalog} {statement : Statement}
    (hfault : (catalog.answer statement).fault = none) :
    ∃ chosen : List ImageRow, chosen.Sublist catalog.byPath ∧
      (catalog.answer statement).rows.map (fun row => pathText (row.get "path")) =
        chosen.map ImageRow.pathName ∧
      ∀ image, image ∈ chosen ↔ image ∈ catalog.images ∧
        catalog.Selects statement.conditions image := by
  obtain ⟨outcomes, hall, hrows⟩ := answer_eq_of_no_fault hfault
  obtain ⟨chosen, hsub, hpaths, hcomplete, hsound⟩ := exists_chosen hall
  refine ⟨chosen, hsub, ?_, fun image => ⟨fun hmem => ⟨?_, ?_⟩, fun hmem => ?_⟩⟩
  · have hnames := congrArg (List.map pathText) hpaths
    rw [List.map_map, List.map_map] at hnames
    rw [hrows]
    exact hnames
  · exact mem_byPath.mp (hsub.subset hmem)
  · exact selects_checkOrder.mp (hsound image hmem)
  · exact hcomplete image (mem_byPath.mpr hmem.1) (selects_checkOrder.mpr hmem.2)

/-- Where no fault ends the answer, the check of every image has come to an end. -/
theorem isSelected_of_no_fault {catalog : Catalog} {statement : Statement}
    (hfault : (catalog.answer statement).fault = none) {image : ImageRow}
    (himage : image ∈ catalog.images) :
    ∃ selected,
      (catalog.subject image).isSelected (checkOrder statement.conditions) = .ok selected := by
  obtain ⟨outcomes, hall, _⟩ := answer_eq_of_no_fault hfault
  have hmem : catalog.select (checkOrder statement.conditions) image ∈ outcomes.map .ok := by
    rw [← hall]
    exact List.mem_map_of_mem (mem_byPath.mpr himage)
  obtain ⟨outcome, _, houtcome⟩ := List.mem_map.mp hmem
  exact (select_eq_ok houtcome.symm).1

end PhotoCatalog.Catalog
