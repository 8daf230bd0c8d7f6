import Mathlib.Data.List.Infix
import PhotoCatalog.Pattern.Glob

/-!
What it means that elements take a text, said by rules.  The matcher keeps marks on the suffixes of
the text instead of trying the rules out, and it answers with yes exactly where the rules lead to
the end of the text.
-/

namespace PhotoCatalog.Pattern

/-- The elements, one after the other, take the whole text. -/
inductive Takes (same : Char → Char → Bool) : List Element → List Char → Prop where
  | nothing : Takes same [] []
  | literal {c d : Char} {elements : List Element} {text : List Char} (hsame : same c d = true)
      (hrest : Takes same elements text) : Takes same (.literal c :: elements) (d :: text)
  | anyChar {d : Char} {elements : List Element} {text : List Char}
      (hrest : Takes same elements text) : Takes same (.anyChar :: elements) (d :: text)
  | runEnds {elements : List Element} {text : List Char} (hrest : Takes same elements text) :
      Takes same (.anyRun :: elements) text
  | runGoesOn {d : Char} {elements : List Element} {text : List Char}
      (hrun : Takes same (.anyRun :: elements) text) : Takes same (.anyRun :: elements) (d :: text)

variable {same same' : Char → Char → Bool} {elements : List Element} {text : List Char}

theorem takes_nil_iff : Takes same [] text ↔ text = [] := by
  constructor
  · rintro ⟨⟩
    rfl
  · rintro rfl
    exact .nothing

theorem takes_literal_iff {c : Char} :
    Takes same (.literal c :: elements) text ↔
      ∃ d rest, text = d :: rest ∧ same c d = true ∧ Takes same elements rest := by
  constructor
  · intro htakes
    cases htakes with
    | literal hsame hrest => exact ⟨_, _, rfl, hsame, hrest⟩
  · rintro ⟨d, rest, rfl, hsame, hrest⟩
    exact .literal hsame hrest

theorem takes_anyChar_iff :
    Takes same (.anyChar :: elements) text ↔
      ∃ d rest, text = d :: rest ∧ Takes same elements rest := by
  constructor
  · intro htakes
    cases htakes with
    | anyChar hrest => exact ⟨_, _, rfl, hrest⟩
  · rintro ⟨d, rest, rfl, hrest⟩
    exact .anyChar hrest

/-- A run leaves some suffix of the text to the other elements. -/
theorem takes_anyRun_iff :
    Takes same (.anyRun :: elements) text ↔
      ∃ suffix, suffix <:+ text ∧ Takes same elements suffix := by
  induction text with
  | nil =>
      constructor
      · intro htakes
        cases htakes with
        | runEnds hrest => exact ⟨[], List.suffix_rfl, hrest⟩
      · rintro ⟨suffix, hsuffix, hrest⟩
        rw [List.suffix_nil.mp hsuffix] at hrest
        exact .runEnds hrest
  | cons d text ih =>
      constructor
      · intro htakes
        cases htakes with
        | runEnds hrest => exact ⟨d :: text, List.suffix_rfl, hrest⟩
        | runGoesOn hrun =>
            obtain ⟨suffix, hsuffix, hrest⟩ := ih.mp hrun
            exact ⟨suffix, hsuffix.trans (List.suffix_cons d text), hrest⟩
      · rintro ⟨suffix, hsuffix, hrest⟩
        rcases List.suffix_cons_iff.mp hsuffix with rfl | hshorter
        · exact .runEnds hrest
        · exact .runGoesOn (ih.mpr ⟨suffix, hshorter, hrest⟩)

/-- What elements take under one comparison they take under another one that accepts as much, as far
as the literals and the text go. -/
theorem Takes.imp (htakes : Takes same elements text)
    (himp : ∀ c d, .literal c ∈ elements → d ∈ text → same c d = true → same' c d = true) :
    Takes same' elements text := by
  induction htakes with
  | nothing => exact .nothing
  | literal hsame _ ih =>
      refine .literal (himp _ _ List.mem_cons_self List.mem_cons_self hsame) (ih ?_)
      exact fun c d hc hd => himp c d (List.mem_cons_of_mem _ hc) (List.mem_cons_of_mem _ hd)
  | anyChar _ ih =>
      refine .anyChar (ih ?_)
      exact fun c d hc hd => himp c d (List.mem_cons_of_mem _ hc) (List.mem_cons_of_mem _ hd)
  | runEnds _ ih =>
      refine .runEnds (ih ?_)
      exact fun c d hc hd => himp c d (List.mem_cons_of_mem _ hc) hd
  | runGoesOn _ ih =>
      refine .runGoesOn (ih ?_)
      exact fun c d hc hd => himp c d hc (List.mem_cons_of_mem _ hd)

/-- Every literal is the same as some character of the text. -/
theorem Takes.literal_mem {c : Char} (htakes : Takes same elements text)
    (hc : .literal c ∈ elements) : ∃ d ∈ text, same c d = true := by
  induction htakes with
  | nothing => simp at hc
  | @literal _ d _ _ hsame _ ih =>
      rcases List.mem_cons.mp hc with heq | hc
      · obtain rfl := Element.literal.inj heq
        exact ⟨d, List.mem_cons_self, hsame⟩
      · obtain ⟨other, hother, hsame⟩ := ih hc
        exact ⟨other, List.mem_cons_of_mem d hother, hsame⟩
  | @anyChar d _ _ _ ih =>
      obtain ⟨other, hother, hsame⟩ := ih (by simpa using hc)
      exact ⟨other, List.mem_cons_of_mem d hother, hsame⟩
  | runEnds _ ih => exact ih (by simpa using hc)
  | @runGoesOn d _ _ _ ih =>
      obtain ⟨other, hother, hsame⟩ := ih hc
      exact ⟨other, List.mem_cons_of_mem d hother, hsame⟩

/-- A literal with its character exchanged. -/
def Element.map (f : Char → Char) : Element → Element
  | .literal c => .literal (f c)
  | element => element

/-- Characters may be exchanged before the comparison instead of in it. -/
theorem takes_map_iff {f g : Char → Char} :
    Takes same (elements.map (Element.map f)) (text.map g) ↔
      Takes (fun c d => same (f c) (g d)) elements text := by
  induction elements generalizing text with
  | nil => simp only [List.map_nil, takes_nil_iff, List.map_eq_nil_iff]
  | cons element elements ih =>
      rw [List.map_cons]
      cases element with
      | literal c =>
          simp only [Element.map, takes_literal_iff, List.map_eq_cons_iff]
          constructor
          · rintro ⟨_, _, ⟨d, rest, rfl, rfl, rfl⟩, hsame, hrest⟩
            exact ⟨d, rest, rfl, hsame, ih.mp hrest⟩
          · rintro ⟨d, rest, rfl, hsame, hrest⟩
            exact ⟨_, _, ⟨d, rest, rfl, rfl, rfl⟩, hsame, ih.mpr hrest⟩
      | anyChar =>
          simp only [Element.map, takes_anyChar_iff, List.map_eq_cons_iff]
          constructor
          · rintro ⟨_, _, ⟨d, rest, rfl, rfl, rfl⟩, hrest⟩
            exact ⟨d, rest, rfl, ih.mp hrest⟩
          · rintro ⟨d, rest, rfl, hrest⟩
            exact ⟨_, _, ⟨d, rest, rfl, rfl, rfl⟩, ih.mpr hrest⟩
      | anyRun =>
          simp only [Element.map, takes_anyRun_iff]
          constructor
          · rintro ⟨_, hsuffix, hrest⟩
            obtain ⟨suffix, hshorter, rfl⟩ := List.suffix_map_iff.mp hsuffix
            exact ⟨suffix, hshorter, ih.mp hrest⟩
          · rintro ⟨suffix, hshorter, hrest⟩
            exact ⟨suffix.map g, hshorter.map g, ih.mpr hrest⟩

/-- Some marked suffix of the text has a property; the marks belong to the suffixes, longest
first. -/
def SomeMarked (P : List Char → Prop) : List Bool → List Char → Prop
  | [], _ => False
  | mark :: marks, text => mark = true ∧ P text ∨ SomeMarked P marks text.tail

theorem SomeMarked.congr {P Q : List Char → Prop} (hsame : ∀ suffix, P suffix ↔ Q suffix)
    (marks : List Bool) (text : List Char) : SomeMarked P marks text ↔ SomeMarked Q marks text := by
  rw [show P = Q from funext fun suffix => propext (hsame suffix)]

/-- Every suffix of the text, the empty one included, has its mark. -/
def MarksSuffixes (marks : List Bool) (text : List Char) : Prop :=
  marks.length = text.length + 1

theorem MarksSuffixes.cons {mark : Bool} {marks : List Bool} {d : Char}
    (hmarks : MarksSuffixes (mark :: marks) (d :: text)) : MarksSuffixes marks text :=
  Nat.succ.inj hmarks

theorem MarksSuffixes.nil {marks : List Bool} (hmarks : MarksSuffixes marks []) :
    ∃ mark, marks = [mark] :=
  List.length_eq_one_iff.mp hmarks

theorem someMarked_nil_iff {marks : List Bool} (hmarks : MarksSuffixes marks text) :
    SomeMarked (· = []) marks text ↔ marks.getLastD false = true := by
  induction text generalizing marks with
  | nil =>
      obtain ⟨mark, rfl⟩ := hmarks.nil
      simp [SomeMarked]
  | cons d text ih =>
      match marks with
      | mark :: next :: marks =>
          simp only [SomeMarked, List.cons_ne_nil, and_false, false_or, List.tail_cons]
          exact ih hmarks.cons

theorem someMarked_afterChar {takes : Char → Bool} {carried : Bool} {marks : List Bool}
    {P : List Char → Prop} (hmarks : MarksSuffixes marks text) :
    SomeMarked P (marksAfterChar takes carried text marks) text ↔
      carried = true ∧ P text ∨
        SomeMarked (fun suffix => ∃ d rest, suffix = d :: rest ∧ takes d = true ∧ P rest)
          marks text := by
  induction text generalizing carried marks with
  | nil =>
      obtain ⟨mark, rfl⟩ := hmarks.nil
      simp [SomeMarked, marksAfterChar]
  | cons d text ih =>
      match marks with
      | mark :: marks =>
          simp only [marksAfterChar, SomeMarked, List.tail_cons, ih hmarks.cons, Bool.and_eq_true,
            List.cons.injEq]
          constructor
          · rintro (hself | ⟨⟨hmark, htakes⟩, hP⟩ | hlater)
            · exact Or.inl hself
            · exact Or.inr (Or.inl ⟨hmark, d, text, ⟨rfl, rfl⟩, htakes, hP⟩)
            · exact Or.inr (Or.inr hlater)
          · rintro (hself | ⟨hmark, _, _, ⟨rfl, rfl⟩, htakes, hP⟩ | hlater)
            · exact Or.inl hself
            · exact Or.inr (Or.inl ⟨⟨hmark, htakes⟩, hP⟩)
            · exact Or.inr (Or.inr hlater)

theorem someMarked_afterRun {carried : Bool} {marks : List Bool} {P : List Char → Prop}
    (hmarks : MarksSuffixes marks text) :
    SomeMarked P (marksAfterRun carried marks) text ↔
      (carried = true ∧ ∃ suffix, suffix <:+ text ∧ P suffix) ∨
        SomeMarked (fun longer => ∃ suffix, suffix <:+ longer ∧ P suffix) marks text := by
  induction text generalizing carried marks with
  | nil =>
      obtain ⟨mark, rfl⟩ := hmarks.nil
      simp [SomeMarked, marksAfterRun, or_and_right]
  | cons d text ih =>
      match marks with
      | mark :: marks =>
          simp only [marksAfterRun, SomeMarked, List.tail_cons, ih hmarks.cons, Bool.or_eq_true,
            List.suffix_cons_iff, or_and_right, exists_or, exists_eq_left]
          generalize (∃ suffix, suffix <:+ text ∧ P suffix) = shorter
          tauto

theorem marksSuffixes_afterChar {takes : Char → Bool} {carried : Bool} {marks : List Bool}
    (hmarks : MarksSuffixes marks text) :
    MarksSuffixes (marksAfterChar takes carried text marks) text := by
  induction text generalizing carried marks with
  | nil => rfl
  | cons d text ih =>
      match marks with
      | mark :: marks => exact congrArg (· + 1) (ih hmarks.cons)

theorem length_afterRun (carried : Bool) (marks : List Bool) :
    (marksAfterRun carried marks).length = marks.length := by
  induction marks generalizing carried with
  | nil => rfl
  | cons mark marks ih => exact congrArg (· + 1) (ih (carried || mark))

/-- One element moves the marks on over what it takes. -/
theorem someMarked_stepMarks {marks : List Bool} (hmarks : MarksSuffixes marks text)
    (element : Element) :
    MarksSuffixes (stepMarks same text marks element) text ∧
      (SomeMarked (Takes same elements) (stepMarks same text marks element) text ↔
        SomeMarked (Takes same (element :: elements)) marks text) := by
  cases element with
  | anyRun =>
      refine ⟨(length_afterRun false marks).trans hmarks, ?_⟩
      rw [stepMarks, someMarked_afterRun hmarks, SomeMarked.congr fun _ => takes_anyRun_iff]
      simp
  | anyChar =>
      refine ⟨marksSuffixes_afterChar hmarks, ?_⟩
      rw [stepMarks, someMarked_afterChar hmarks, SomeMarked.congr fun _ => takes_anyChar_iff]
      simp
  | literal c =>
      refine ⟨marksSuffixes_afterChar hmarks, ?_⟩
      rw [stepMarks, someMarked_afterChar hmarks, SomeMarked.congr fun _ => takes_literal_iff]
      simp

/-- The last mark tells whether some marked suffix is taken by the elements that follow. -/
theorem foldl_stepMarks_iff {marks : List Bool} (hmarks : MarksSuffixes marks text) :
    (elements.foldl (stepMarks same text) marks).getLastD false = true ↔
      SomeMarked (Takes same elements) marks text := by
  induction elements generalizing marks with
  | nil => rw [List.foldl_nil, SomeMarked.congr fun _ => takes_nil_iff, someMarked_nil_iff hmarks]
  | cons element elements ih =>
      obtain ⟨hmarks', hstep⟩ := @someMarked_stepMarks same elements text marks hmarks element
      rw [List.foldl_cons, ih hmarks', hstep]

theorem not_someMarked {marks : List Bool} {P : List Char → Prop}
    (hmarks : ∀ mark ∈ marks, mark = false) (text : List Char) : ¬ SomeMarked P marks text := by
  induction marks generalizing text with
  | nil => exact id
  | cons mark marks ih =>
      obtain ⟨hmark, hmarks⟩ := List.forall_mem_cons.mp hmarks
      rintro (⟨htrue, -⟩ | hlater)
      · exact Bool.false_ne_true (hmark.symm.trans htrue)
      · exact ih hmarks text.tail hlater

/-- The matcher answers with yes exactly where the elements take the text. -/
theorem matchesElements_iff :
    matchesElements same elements text = true ↔ Takes same elements text := by
  have hmarks : MarksSuffixes (true :: text.map fun _ => false) text := by
    rw [MarksSuffixes, List.length_cons, List.length_map]
  have hothers : ∀ mark ∈ text.map fun _ => false, mark = false := by
    simp
  rw [matchesElements, foldl_stepMarks_iff hmarks, SomeMarked]
  constructor
  · rintro (⟨-, htakes⟩ | hlater)
    · exact htakes
    · exact absurd hlater (not_someMarked hothers text.tail)
  · exact fun htakes => Or.inl ⟨rfl, htakes⟩

end PhotoCatalog.Pattern
