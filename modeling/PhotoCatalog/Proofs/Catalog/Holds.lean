import PhotoCatalog.Catalog.Answer
import PhotoCatalog.Proofs.Outcome

/-!
When a condition holds of a row.  A check ends as soon as its answer is known and may end with a
fault before that, so every rule here starts from a check that has an answer.  Where it has one,
alternatives hold exactly when one of them holds, and a child table answers exactly through one of
its rows.
-/

namespace PhotoCatalog.Catalog

open PhotoCatalog.Query

/-- A condition holds of a row when its check answers with true: neither a fault nor an unknown
truth counts. -/
def Subject.Holds (s : Subject) (condition : Condition) : Prop :=
  s.satisfies condition = .ok (some true)

/-- A check has an answer, whatever it is. -/
def Subject.Answers (s : Subject) (condition : Condition) : Prop :=
  ∃ truth, s.satisfies condition = .ok truth

theorem Subject.Holds.answers {s : Subject} {condition : Condition} (h : s.Holds condition) :
    s.Answers condition :=
  ⟨some true, h⟩

theorem Truth.and_some (a b : Bool) : Truth.and (some a) (some b) = some (a && b) := by
  cases a <;> cases b <;> rfl

theorem Truth.or_some (a b : Bool) : Truth.or (some a) (some b) = some (a || b) := by
  cases a <;> cases b <;> rfl

theorem Truth.or_eq_true_iff {a b : Truth} (ha : a ≠ some true) :
    a.or b = some true ↔ b = some true := by
  rcases a with _ | _ | _ <;> rcases b with _ | _ | _ <;> simp_all [Truth.or]

/-- Alternatives that have an answer hold exactly when one of them holds. -/
theorem Subject.satisfiesAny_eq_true_iff {s : Subject} {items : List Condition} {truth : Truth}
    (hany : s.satisfiesAny items = .ok truth) :
    truth = some true ↔ ∃ item ∈ items, s.Holds item := by
  induction items generalizing truth with
  | nil =>
      simp only [Subject.satisfiesAny, pure_eq_ok] at hany
      simp [← hany]
  | cons item rest ih =>
      rw [Subject.satisfiesAny, bind_eq_ok] at hany
      obtain ⟨first, hfirst, hany⟩ := hany
      split at hany
      · simp only [pure_eq_ok] at hany
        simp [← hany, Subject.Holds, hfirst]
      · rename_i hnot
        obtain ⟨others, hothers, hany⟩ := bind_eq_ok.mp hany
        simp only [pure_eq_ok] at hany
        have hitem : ¬ s.Holds item := by
          intro hholds
          exact hnot (Except.ok.inj (hfirst.symm.trans hholds))
        rw [← hany, Truth.or_eq_true_iff hnot, ih hothers]
        simp [hitem]

/-- A group that has an answer holds exactly when one of its members holds. -/
theorem Subject.group_eq_true_iff {s : Subject} {items : List Condition} {truth : Truth}
    (hgroup : s.satisfies (.group items) = .ok truth) :
    truth = some true ↔ ∃ item ∈ items, s.Holds item := by
  match items with
  | [item] =>
      simp only [Condition.group] at hgroup
      simp [Subject.Holds, hgroup]
  | [] | _ :: _ :: _ =>
      simp only [Condition.group, Subject.satisfies] at hgroup
      exact Subject.satisfiesAny_eq_true_iff hgroup

theorem anyM_eq_true_iff {α ε : Type} {p : α → Except ε Bool} {items : List α} {found : Bool}
    (hany : items.anyM p = .ok found) :
    found = true ↔ ∃ item ∈ items, p item = .ok true := by
  induction items generalizing found with
  | nil =>
      simp only [List.anyM_nil, pure_eq_ok] at hany
      simp [← hany]
  | cons item rest ih =>
      obtain ⟨first, hfirst, hany⟩ := bind_eq_ok.mp hany
      cases first with
      | true =>
          simp only [pure_eq_ok] at hany
          simp [← hany, hfirst]
      | false => simp [ih hany, hfirst]

/-- A search through a list that finds nothing has looked at every item. -/
theorem eq_false_of_anyM_eq_false {α ε : Type} {p : α → Except ε Bool} {items : List α}
    (hany : items.anyM p = .ok false) : ∀ item ∈ items, p item = .ok false := by
  induction items with
  | nil => simp
  | cons item rest ih =>
      obtain ⟨first, hfirst, hany⟩ := bind_eq_ok.mp hany
      cases first with
      | true => simp at hany
      | false =>
          intro other hother
          rcases List.mem_cons.mp hother with rfl | hother
          · exact hfirst
          · exact ih hany other hother

/-- A child table that has an answer answers with true exactly when the condition holds of one of
the rows that belong to the image. -/
theorem Subject.existsIn_eq_true_iff {s : Subject} {table : ChildTable} {condition : Condition}
    {truth : Truth} (hexists : s.satisfies (.existsIn table condition) = .ok truth) :
    truth = some true ↔ ∃ child ∈ s.children table, child.Holds condition := by
  rw [Subject.satisfies, bind_eq_ok] at hexists
  obtain ⟨found, hfound, hexists⟩ := hexists
  simp only [pure_eq_ok] at hexists
  rw [← hexists, Option.some.injEq, anyM_eq_true_iff hfound]
  simp only [bind_eq_ok, pure_eq_ok, beq_iff_eq, exists_eq_right, Subject.Holds]

/-- A child table that answers with something else than true has been checked to its end. -/
theorem Subject.answers_of_existsIn {s : Subject} {table : ChildTable} {condition : Condition}
    {truth : Truth} (hexists : s.satisfies (.existsIn table condition) = .ok truth)
    (hnot : truth ≠ some true) : ∀ child ∈ s.children table, child.Answers condition := by
  rw [Subject.satisfies, bind_eq_ok] at hexists
  obtain ⟨found, hfound, hexists⟩ := hexists
  simp only [pure_eq_ok] at hexists
  have hfalse : found = false := by
    cases found with
    | true => exact absurd hexists.symm hnot
    | false => rfl
  intro child hchild
  have hstep := eq_false_of_anyM_eq_false (hfalse ▸ hfound) child hchild
  obtain ⟨answer, hanswer, _⟩ := bind_eq_ok.mp hstep
  exact ⟨answer, hanswer⟩

/-- A row that is not selected fails one of the conditions, and that one has been answered. -/
theorem Subject.isSelected_eq_ok {s : Subject} {conditions : List Condition} {selected : Bool}
    (hselected : s.isSelected conditions = .ok selected) :
    if selected then ∀ condition ∈ conditions, s.Holds condition
    else ∃ condition ∈ conditions, s.Answers condition ∧ ¬ s.Holds condition := by
  induction conditions generalizing selected with
  | nil =>
      simp only [Subject.isSelected, Except.ok.injEq] at hselected
      simp [← hselected]
  | cons condition rest ih =>
      obtain ⟨truth, htruth, hselected⟩ := bind_eq_ok.mp hselected
      split at hselected
      · have hholds : s.Holds condition := htruth
        have hrest := ih hselected
        cases selected with
        | true =>
            simp only [↓reduceIte, List.forall_mem_cons] at hrest ⊢
            exact ⟨hholds, hrest⟩
        | false =>
            obtain ⟨failed, hfailed, hanswer⟩ := hrest
            exact ⟨failed, List.mem_cons_of_mem condition hfailed, hanswer⟩
      · rename_i hnot
        simp only [pure_eq_ok] at hselected
        subst hselected
        refine ⟨condition, List.mem_cons_self, ⟨truth, htruth⟩, ?_⟩
        intro hholds
        exact hnot (Except.ok.inj (htruth.symm.trans hholds))

theorem Subject.isSelected_eq_true_iff {s : Subject} {conditions : List Condition} {selected : Bool}
    (hselected : s.isSelected conditions = .ok selected) :
    selected = true ↔ ∀ condition ∈ conditions, s.Holds condition := by
  have hcases := Subject.isSelected_eq_ok hselected
  cases selected with
  | true => simpa using hcases
  | false =>
      obtain ⟨condition, hmem, _, hnot⟩ := hcases
      simp only [Bool.false_eq_true, false_iff]
      exact fun hall => hnot (hall condition hmem)

end PhotoCatalog.Catalog
