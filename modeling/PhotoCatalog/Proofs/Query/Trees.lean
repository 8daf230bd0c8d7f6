import PhotoCatalog.Proofs.Query.ChildTables
import PhotoCatalog.Proofs.Query.Shape

/-!
The conditions of facets are trees.  Whether a condition is a tree over columns with names is told
by its form, and the forms are few; so every query whose conditions are known can be written.
-/

namespace PhotoCatalog.Query

open PhotoCatalog.Sql

mutual

/-- A condition is a tree when its form is one. -/
theorem isTree_form : (condition : Condition) → (condition.form.IsTree ↔ condition.IsTree)
  | .exact .. | .like .. | .range .. | .flag .. | .within _ | .unknown => by
      simp only [Condition.form, Condition.IsTree]
  | .anyOf items => by
      simp only [Condition.form, Condition.IsTree]
      exact areTrees_form items
  | .allOf items => by
      simp only [Condition.form, Condition.IsTree]
      exact areTrees_form items
  | .existsIn _ condition => by
      simp only [Condition.form, Condition.IsTree]
      exact isTree_form condition

theorem areTrees_form : (conditions : List Condition) →
    (AreTrees (formsOf conditions) ↔ AreTrees conditions)
  | [] => Iff.rfl
  | condition :: rest => by
      rw [formsOf, AreTrees, AreTrees, isTree_form condition, areTrees_form rest]

end

theorem Condition.IsTree.of_form {condition form : Condition} (hform : condition.form = form)
    (htree : form.IsTree) : condition.IsTree :=
  (isTree_form condition).mp (hform ▸ htree)

theorem isTree_tokenForm {column : String} (hcolumn : isName column = true) (isPattern : Bool) :
    (tokenForm column isPattern).IsTree := by
  cases isPattern <;> simpa [tokenForm, Condition.IsTree] using hcolumn

theorem isTree_listForm (facet : ListFacet) (patterns : List Bool) :
    (listForm facet patterns).IsTree := by
  have hcolumns : ∀ names, facet.target = .columns names → ∀ name ∈ names, isName name = true := by
    cases facet <;> rintro names ⟨⟩ <;> decide
  cases htarget : facet.target with
  | child table =>
      rw [listForm, htarget]
      simp only [Condition.IsTree]
      refine isTree_group fun item hitem => ?_
      obtain ⟨isPattern, -, rfl⟩ := List.mem_map.mp hitem
      exact isTree_tokenForm (isName_matchColumn table) isPattern
  | columns names =>
      rw [listForm, htarget]
      refine isTree_group fun item hitem => ?_
      obtain ⟨isPattern, -, hitem⟩ := List.mem_flatMap.mp hitem
      obtain ⟨name, hname, rfl⟩ := List.mem_map.mp hitem
      exact isTree_tokenForm (hcolumns names htarget name hname) isPattern

theorem isTree_rangeForm {column : String} (hcolumn : isName column = true) (form : RangeForm) :
    (rangeForm column form).IsTree := by
  cases form <;> simpa [rangeForm, Condition.IsTree] using hcolumn

theorem isTree_freeTextForms : ∀ item ∈ freeTextForms, item.IsTree := by
  intro item hitem
  rcases List.mem_append.mp hitem with hitem | hitem
  · obtain ⟨column, hcolumn, rfl⟩ := List.mem_map.mp hitem
    have hnames : ∀ column ∈ freeTextColumns, isName column = true := by decide
    exact isTree_tokenForm (hnames column hcolumn) true
  · obtain ⟨table, -, rfl⟩ := List.mem_map.mp hitem
    rw [Condition.IsTree]
    exact isTree_tokenForm (isName_matchColumn table) true

variable {c : Criteria} {facet : Facet} {condition : Condition}

/-- Whatever a facet asks for, its condition is a tree. -/
theorem isTree_of_facetCondition (hcondition : facetCondition c facet = .ok (some condition)) :
    condition.IsTree := by
  cases facet with
  | list f =>
      obtain ⟨tokens, -, hlist⟩ := mapM_eq_ok_some_iff.mp hcondition
      exact .of_form (listCondition_form hlist) (isTree_listForm f _)
  | range f =>
      obtain ⟨bounds, -, hrange⟩ := mapM_eq_ok_some_iff.mp hcondition
      have hcolumn : isName f.column = true := by cases f <;> decide
      rw [rangeCondition] at hrange
      split at hrange
      · obtain ⟨form, -, hform⟩ := dateRange_form hrange
        exact .of_form hform (isTree_rangeForm hcolumn form)
      · exact .of_form (numericRange_form hrange) (isTree_rangeForm hcolumn _)
  | flag f =>
      simp only [facetCondition, Except.ok.injEq, Option.ite_none_right_eq_some,
        Option.some.injEq] at hcondition
      have hcolumn : isName f.column = true := by cases f <;> decide
      rw [← hcondition.2, Condition.IsTree]
      exact ⟨hcolumn, f.wanted, rfl⟩
  | geoLocation =>
      obtain ⟨place, -, hplace⟩ := mapM_eq_ok_some_iff.mp hcondition
      obtain ⟨boxes, -, hform⟩ := placeCondition_form hplace
      refine .of_form hform ?_
      rw [regionForm, Condition.IsTree]
      change isName latitudeColumn = true ∧ isName longitudeColumn = true
      decide
  | any =>
      simp only [facetCondition, Except.ok.injEq, Option.map_eq_some_iff] at hcondition
      obtain ⟨tokens, -, rfl⟩ := hcondition
      refine .of_form (freeTextCondition_form tokens) ?_
      rw [Condition.IsTree, areTrees_iff]
      intro item hitem
      obtain ⟨forms, hforms, hitem⟩ := List.mem_flatten.mp hitem
      rw [List.eq_of_mem_replicate hforms] at hitem
      exact isTree_freeTextForms item hitem

theorem areTrees_of_conditionsOf {pairs : List (Facet × Condition)}
    (hpairs : conditionsOf c = .ok pairs) : AreTrees (pairs.map (·.2)) := by
  rw [areTrees_iff]
  intro condition hmem
  obtain ⟨⟨facet, _⟩, hpair, rfl⟩ := List.mem_map.mp hmem
  exact isTree_of_facetCondition (((conditionsFor_eq_ok hpairs).2 _ _).mp hpair).2

/-- Where every facet has its condition, a query can be written. -/
theorem exists_compile {pairs : List (Facet × Condition)} (hpairs : conditionsOf c = .ok pairs) :
    ∃ statement, compile c = .ok statement := by
  obtain ⟨statement, hcompile, -⟩ := compile_of_trees hpairs (areTrees_of_conditionsOf hpairs)
  exact ⟨statement, hcompile⟩

end PhotoCatalog.Query
