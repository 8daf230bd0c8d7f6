import PhotoCatalog.Proofs.Catalog.Selection

/-!
Answers that come to their end.  Where the catalog accepts a query, its parameters can be bound, and
every image can be checked and has a row, the answer has no fault; and its rows are then those of
the images that the query selects.
-/

namespace PhotoCatalog.Catalog

open PhotoCatalog.Query

variable {catalog : Catalog} {statement : Statement} {s : Subject} {image : ImageRow}

/-- Alternatives have an answer when each of them has one. -/
theorem Subject.satisfiesAny_of_answers {items : List Condition}
    (hitems : ∀ item ∈ items, s.Answers item) : ∃ truth, s.satisfiesAny items = .ok truth := by
  induction items with
  | nil => exact ⟨some false, by rw [Subject.satisfiesAny]; rfl⟩
  | cons item items ih =>
      obtain ⟨⟨truth, htruth⟩, hrest⟩ := List.forall_mem_cons.mp hitems
      obtain ⟨others, hothers⟩ := ih hrest
      rw [Subject.satisfiesAny, htruth, ok_bind]
      split
      · exact ⟨some true, rfl⟩
      · exact ⟨_, by rw [hothers]; rfl⟩

theorem Subject.answers_group {items : List Condition}
    (hitems : ∀ item ∈ items, s.Answers item) : s.Answers (.group items) := by
  match items with
  | [item] => exact hitems item List.mem_cons_self
  | [] | _ :: _ :: _ =>
      obtain ⟨truth, htruth⟩ := Subject.satisfiesAny_of_answers hitems
      refine ⟨truth, ?_⟩
      rw [Condition.group, Subject.satisfies, htruth]
      rintro item ⟨⟩

/-- A child table has an answer when the condition has one for each of its rows. -/
theorem Subject.answers_existsIn {table : ChildTable} {condition : Condition}
    (hchildren : ∀ child ∈ s.children table, child.Answers condition) :
    s.Answers (.existsIn table condition) := by
  have hany : ∃ found, ((s.children table).anyM fun child => do
      return (← child.satisfies condition) == some true) = Except.ok (ε := Fault) found := by
    generalize s.children table = children at hchildren
    induction children with
    | nil => exact ⟨false, rfl⟩
    | cons child children ih =>
        obtain ⟨⟨truth, htruth⟩, hrest⟩ := List.forall_mem_cons.mp hchildren
        obtain ⟨found, hfound⟩ := ih hrest
        rw [List.anyM_cons, htruth]
        cases htrue : truth == some true with
        | true => exact ⟨true, by simp only [ok_bind, htrue]; rfl⟩
        | false => exact ⟨found, by simp only [ok_bind, htrue, ← hfound]; rfl⟩
  obtain ⟨found, hfound⟩ := hany
  refine ⟨some found, ?_⟩
  rw [Subject.satisfies, hfound]
  rfl

/-- A child table that has an answer and is not empty has one for some row of it. -/
theorem Subject.exists_answers_of_existsIn {table : ChildTable} {condition : Condition}
    (hsome : s.children table ≠ []) (hanswers : s.Answers (.existsIn table condition)) :
    ∃ child ∈ s.children table, child.Answers condition := by
  obtain ⟨truth, htruth⟩ := hanswers
  by_cases htrue : truth = some true
  · obtain ⟨child, hchild, hholds⟩ := (Subject.existsIn_eq_true_iff htruth).mp htrue
    exact ⟨child, hchild, hholds.answers⟩
  · obtain ⟨child, hchild⟩ := List.exists_mem_of_ne_nil _ hsome
    exact ⟨child, hchild, Subject.answers_of_existsIn htruth htrue child hchild⟩

/-- A check of several conditions comes to its end when each of them has an answer. -/
theorem Subject.isSelected_of_answers {conditions : List Condition}
    (hall : ∀ condition ∈ conditions, s.Answers condition) :
    ∃ selected, s.isSelected conditions = .ok selected := by
  induction conditions with
  | nil => exact ⟨true, rfl⟩
  | cons condition conditions ih =>
      obtain ⟨⟨truth, htruth⟩, hrest⟩ := List.forall_mem_cons.mp hall
      rw [Subject.isSelected, htruth, ok_bind]
      split
      · exact ih hrest
      · exact ⟨false, rfl⟩

theorem exists_select {conditions : List Condition}
    (hanswers : ∀ condition ∈ conditions, (catalog.subject image).Answers condition)
    (hrow : ∃ row, catalog.resultRow image = .ok row) :
    ∃ outcome, catalog.select conditions image = .ok outcome := by
  obtain ⟨selected, hselected⟩ := Subject.isSelected_of_answers hanswers
  obtain ⟨row, hrow⟩ := hrow
  rw [select, hselected, ok_bind]
  cases selected with
  | true => exact ⟨some row, by rw [if_pos rfl, hrow]; rfl⟩
  | false => exact ⟨none, rfl⟩

/-- Selecting an image gives a row exactly when the query selects the image and that row is its. -/
theorem select_eq_some_iff {conditions : List Condition} {row : Row} :
    catalog.select conditions image = .ok (some row) ↔
      (catalog.subject image).isSelected conditions = .ok true ∧
        catalog.resultRow image = .ok row := by
  rw [select, bind_eq_ok]
  constructor
  · rintro ⟨selected, hselected, hrow⟩
    cases selected with
    | true =>
        obtain ⟨row', hrow', hsame⟩ := bind_eq_ok.mp hrow
        simp only [pure_eq_ok, Option.some.injEq] at hsame
        exact ⟨hselected, hsame ▸ hrow'⟩
    | false => simp at hrow
  · rintro ⟨hselected, hrow⟩
    exact ⟨true, hselected, by rw [if_pos rfl, hrow]; rfl⟩

theorem rowsUpToFault_of_ok {outcomes : List (Option Row)} :
    (rowsUpToFault (outcomes.map .ok)).fault = none := by
  induction outcomes with
  | nil => rfl
  | cons outcome outcomes ih =>
      cases outcome with
      | none => exact ih
      | some row => exact ih

/-- An accepted query whose check of every image comes to its end is answered to the end. -/
theorem answer_of_accepted (haccepts : catalog.refusal? statement = none)
    (hparams : ∀ p ∈ statement.params, ∃ cell, Cell.ofValue p.2 = .ok cell)
    (hselect : ∀ image ∈ catalog.images,
      ∃ outcome, catalog.select (checkOrder statement.conditions) image = .ok outcome) :
    (catalog.answer statement).fault = none := by
  have hall : ∀ image ∈ catalog.byPath, ∃ outcome,
      catalog.select (checkOrder statement.conditions) image = .ok outcome ∧ True := by
    intro image himage
    obtain ⟨outcome, houtcome⟩ := hselect image (mem_byPath.mp himage)
    exact ⟨outcome, houtcome, trivial⟩
  obtain ⟨outcomes, houtcomes, -⟩ := exists_mapM_ok hall
  rw [mapM_eq_ok] at houtcomes
  have hbind : statement.params.forM (fun p => discard (Cell.ofValue p.2)) = .ok () := by
    generalize statement.params = params at hparams
    induction params with
    | nil => rfl
    | cons p params ih =>
        obtain ⟨⟨cell, hcell⟩, hrest⟩ := List.forall_mem_cons.mp hparams
        change (discard (Cell.ofValue p.2) >>= fun _ => params.forM _) = _
        rw [hcell]
        exact ih hrest
  rw [answer, haccepts]
  simp only [hbind, houtcomes]
  split
  · rw [show (outcomes.map Except.ok).mapM id = Except.ok (ε := Fault) outcomes by
      rw [mapM_eq_ok, List.map_id]]
  · rw [Answer.fetchedAhead, rowsUpToFault_of_ok]
    exact rowsUpToFault_of_ok

/-- The rows of an answer without a fault are those of the images that the query selects. -/
theorem mem_answer_rows (hfault : (catalog.answer statement).fault = none) {row : Row} :
    row ∈ (catalog.answer statement).rows ↔ ∃ image ∈ catalog.images,
      catalog.Selects statement.conditions image ∧ catalog.resultRow image = .ok row := by
  obtain ⟨outcomes, hall, hrows⟩ := answer_eq_of_no_fault hfault
  have hmem : row ∈ outcomes.filterMap id ↔ Except.ok (some row) ∈
      catalog.byPath.map (catalog.select (checkOrder statement.conditions)) := by
    rw [hall, List.mem_map_of_injective fun _ _ => Except.ok.inj]
    simp
  rw [hrows, hmem, List.mem_map]
  simp only [mem_byPath, select_eq_some_iff]
  refine exists_congr fun image => and_congr_right fun himage => and_congr_left fun _ => ?_
  obtain ⟨selected, hselected⟩ := isSelected_of_no_fault hfault himage
  rw [← selects_checkOrder, Selects, ← Subject.isSelected_eq_true_iff hselected, hselected,
    Except.ok.injEq]

end PhotoCatalog.Catalog
