import PhotoCatalog.Proofs.Catalog.Accepted
import PhotoCatalog.Proofs.Query.Spelled
import PhotoCatalog.Proofs.Query.TokenAgreement
import PhotoCatalog.Proofs.Query.TokenMeaning

/-!
Criteria about child tables alone.  Their query can always be written, every check of it has an
answer as long as the patterns keep to the catalog's limit, and it selects no fewer images than
matching the tokens against the labels of the child rows does.
-/

namespace PhotoCatalog.Query

open PhotoCatalog.Catalog PhotoCatalog.Pattern PhotoCatalog.Sql PhotoCatalog.Text

/-- Criteria whose active facets are all answered by child tables. -/
def AsksChildTables (c : Criteria) : Prop :=
  ∀ facet, c.isActive facet = true → ∃ f table, facet = .list f ∧ f.target = .child table

variable {c : Criteria} {facet : ListFacet} {table : ChildTable} {tokens : List String}

theorem facetCondition_child (htarget : facet.target = .child table)
    (htokens : c.tokens facet = some tokens) :
    facetCondition c (.list facet) = .ok (some (childCondition table tokens false)) := by
  have hpath : facet ≠ .pathLike := by
    rintro rfl
    cases htarget
  have hlist : listCondition facet tokens = .ok (childCondition table tokens false) := by
    rw [listCondition, if_neg hpath]
    simp only [htarget]
    rfl
  exact mapM_eq_ok_some_iff.mpr ⟨tokens, htokens, hlist⟩

/-- The condition of every facet is that of a child table, if there is one. -/
theorem AsksChildTables.facetCondition (hasks : AsksChildTables c) (facet : Facet) :
    ∃ found, facetCondition c facet = .ok found ∧ ∀ condition, found = some condition →
      ∃ f table tokens, f.target = .child table ∧ c.tokens f = some tokens ∧
        condition = childCondition table tokens false := by
  cases hactive : c.isActive facet with
  | false =>
      refine ⟨none, facetCondition_eq_none_iff.mpr hactive, ?_⟩
      rintro condition ⟨⟩
  | true =>
      obtain ⟨f, table, rfl, htarget⟩ := hasks facet hactive
      obtain ⟨tokens, htokens⟩ := Option.isSome_iff_exists.mp hactive
      refine ⟨_, facetCondition_child htarget htokens, ?_⟩
      rintro condition ⟨⟩
      exact ⟨f, table, tokens, htarget, htokens, rfl⟩

theorem conditionsFor_of_ok {facets : List Facet}
    (hall : ∀ facet ∈ facets, ∃ found, facetCondition c facet = .ok found) :
    ∃ pairs, conditionsFor c facets = .ok pairs := by
  induction facets with
  | nil => exact ⟨[], rfl⟩
  | cons facet facets ih =>
      obtain ⟨⟨found, hfound⟩, hrest⟩ := List.forall_mem_cons.mp hall
      obtain ⟨pairs, hpairs⟩ := ih hrest
      rw [conditionsFor, hfound, ok_bind]
      cases found with
      | none => exact ⟨pairs, hpairs⟩
      | some condition => exact ⟨_, by rw [hpairs]; rfl⟩

/-- A query whose conditions are trees can be written, and its parameters are the values of the
conditions. -/
theorem compile_of_trees {pairs : List (Facet × Condition)} (hpairs : conditionsOf c = .ok pairs)
    (htrees : AreTrees (pairs.map (·.2))) : ∃ statement, compile c = .ok statement ∧
      statement.params = (Bindings.of "p" (valuesOf (pairs.map (·.2)))).params := by
  have hstem : "p".toList.all isWordChar = true := by decide
  obtain ⟨_, hrun, texts, rfl, -⟩ :=
    renderAll_spells hstem 0 imageName (by decide) (pairs.map (·.2)) htrees [] rfl
  rw [List.nil_append] at hrun
  rw [compile, hpairs, ok_bind]
  simp only [Bindings.start_eq_of, hrun, ok_bind]
  exact ⟨_, rfl, rfl⟩

theorem areTrees_iff {conditions : List Condition} :
    AreTrees conditions ↔ ∀ condition ∈ conditions, condition.IsTree := by
  induction conditions with
  | nil => simp [AreTrees]
  | cons condition conditions ih => rw [AreTrees, ih, List.forall_mem_cons]

theorem mem_valuesOf {conditions : List Condition} {v : Value} :
    v ∈ valuesOf conditions ↔ ∃ condition ∈ conditions, v ∈ condition.values := by
  induction conditions with
  | nil => simp [valuesOf]
  | cons condition conditions ih =>
      rw [valuesOf, List.mem_append, ih, List.exists_mem_cons_iff]

theorem isTree_group {items : List Condition} (hitems : ∀ item ∈ items, item.IsTree) :
    (Condition.group items).IsTree := by
  match items with
  | [item] => exact hitems item List.mem_cons_self
  | [] | _ :: _ :: _ =>
      rw [Condition.group, Condition.IsTree, areTrees_iff]
      · exact hitems
      · rintro item ⟨⟩

theorem values_group (items : List Condition) :
    (Condition.group items).values = valuesOf items := by
  match items with
  | [item] => rw [Condition.group, valuesOf, valuesOf, List.append_nil]
  | [] | _ :: _ :: _ =>
      rw [Condition.group, Condition.values]
      rintro item ⟨⟩

/-- The condition of a token is a tree over its column, and it binds one text. -/
theorem tokenCondition_shape {column : String} (hcolumn : isName column = true) (token : String)
    (substring : Bool) : (tokenCondition column token substring).IsTree ∧
      ∃ text, (tokenCondition column token substring).values = [.text text] := by
  rw [tokenCondition]
  split
  · exact ⟨by rwa [Condition.IsTree], _, by rw [Condition.values]⟩
  · exact ⟨by rwa [Condition.IsTree], _, by rw [Condition.values]⟩

theorem isName_matchColumn (table : ChildTable) : isName table.matchColumn = true := by
  cases table <;> decide

theorem childCondition_shape (table : ChildTable) (tokens : List String) (substring : Bool) :
    (childCondition table tokens substring).IsTree ∧
      ∀ v ∈ (childCondition table tokens substring).values, ∃ text, v = .text text := by
  have hitem := tokenCondition_shape (isName_matchColumn table)
  rw [childCondition]
  constructor
  · rw [Condition.IsTree]
    apply isTree_group
    intro item hmem
    obtain ⟨token, -, rfl⟩ := List.mem_map.mp hmem
    exact (hitem token substring).1
  · intro v hv
    rw [Condition.values, values_group, mem_valuesOf] at hv
    obtain ⟨item, hmem, hv⟩ := hv
    obtain ⟨token, -, rfl⟩ := List.mem_map.mp hmem
    obtain ⟨text, htext⟩ := (hitem token substring).2
    rw [htext, List.mem_singleton] at hv
    exact ⟨text, hv⟩

theorem mem_values_of_mem_params {stem : String} {values : List Value} {p : String × Value}
    (hp : p ∈ (Bindings.of stem values).params) : p.2 ∈ values := by
  obtain ⟨⟨v, i⟩, hmem, rfl⟩ := List.mem_map.mp hp
  exact List.fst_mem_of_mem_zipIdx hmem

/-- Criteria about child tables alone have a query; each of its conditions looks for the tokens of a
facet in its table, and its parameters are texts. -/
theorem AsksChildTables.compile (hasks : AsksChildTables c) :
    ∃ statement, compile c = .ok statement ∧
      (∀ condition, condition ∈ statement.conditions ↔ ∃ f table tokens,
        f.target = .child table ∧ c.tokens f = some tokens ∧
          condition = childCondition table tokens false) ∧
      ∀ p ∈ statement.params, ∃ text, p.2 = .text text := by
  obtain ⟨pairs, hpairs⟩ := conditionsFor_of_ok fun facet (_ : facet ∈ Facet.all) =>
    ⟨_, (hasks.facetCondition facet).choose_spec.1⟩
  have hshape : ∀ condition ∈ pairs.map (·.2), condition.IsTree ∧
      ∀ v ∈ condition.values, ∃ text, v = .text text := by
    intro condition hmem
    obtain ⟨⟨facet, _⟩, hpair, rfl⟩ := List.mem_map.mp hmem
    have hfacet := (((conditionsFor_eq_ok hpairs).2 _ _).mp hpair).2
    obtain ⟨found, hfound, hall⟩ := hasks.facetCondition facet
    obtain ⟨f, table, tokens, -, -, hcondition⟩ :=
      hall _ (Except.ok.inj (hfound.symm.trans hfacet))
    rw [hcondition]
    exact childCondition_shape table tokens false
  obtain ⟨statement, hcompile, hparams⟩ :=
    compile_of_trees hpairs (areTrees_iff.mpr fun condition hmem => (hshape condition hmem).1)
  refine ⟨statement, hcompile, fun condition => ?_, fun p hp => ?_⟩
  · rw [mem_conditions_iff hcompile]
    constructor
    · rintro ⟨facet, hfacet⟩
      obtain ⟨found, hfound, hall⟩ := hasks.facetCondition facet
      exact hall condition (Except.ok.inj (hfound.symm.trans hfacet))
    · rintro ⟨f, table, tokens, htarget, htokens, rfl⟩
      exact ⟨.list f, facetCondition_child htarget htokens⟩
  · obtain ⟨condition, hmem, hv⟩ := mem_valuesOf.mp (mem_values_of_mem_params (hparams ▸ hp))
    exact (hshape condition hmem).2 _ hv

/-- The pattern of a token is not too long for the catalog. -/
def FitsPattern (token : String) : Prop :=
  hasWildcards token = true → (likeForm token).utf8ByteSize ≤ patternLimit

section Rows

variable {s : Subject} {column token value : String}

/-- The comparison of a token with a text has an answer when its pattern fits. -/
theorem answers_token (hfits : FitsPattern token) (hcell : s.cell column = .text value)
    (haffinity : s.affinity column = .text) : s.Answers (tokenCondition column token false) := by
  cases hwild : hasWildcards token with
  | true =>
      rw [Subject.Answers, satisfies_of_wildcards hwild hcell, if_neg (hfits hwild).not_gt]
      exact ⟨_, rfl⟩
  | false =>
      rw [Subject.Answers, satisfies_of_plain hwild hcell haffinity]
      exact ⟨_, rfl⟩

/-- What a token matches among ASCII texts satisfies its comparison. -/
theorem holds_of_wildcardMatch (hfits : FitsPattern token) (hcell : s.cell column = .text value)
    (haffinity : s.affinity column = .text) (htoken : IsAscii token) (hvalue : IsAscii value)
    (hnulFree : IsNulFree value) (hmatch : wildcardMatch token (some value) = true) :
    s.Holds (tokenCondition column token false) := by
  have htokenFree := isNulFree_of_wildcardMatch htoken hvalue hnulFree hmatch
  cases hwild : hasWildcards token with
  | true =>
      rw [wildcardMatch_eq_likeMatch hwild htokenFree hnulFree htoken hvalue] at hmatch
      rw [Subject.Holds, satisfies_of_wildcards hwild hcell, if_neg (hfits hwild).not_gt, hmatch]
  | false =>
      rw [wildcardMatch_eq_equalNoCase hwild htokenFree hnulFree htoken hvalue] at hmatch
      rw [Subject.Holds, satisfies_of_plain hwild hcell haffinity, hmatch]

end Rows

theorem subject_matchColumn (table : ChildTable) (child : ChildRow) :
    (child.subject table).cell table.matchColumn = child.label ∧
      (child.subject table).affinity table.matchColumn = .text := by
  cases table <;> exact ⟨rfl, rfl⟩

/-- A child table in which all labels are texts has an answer about tokens whose patterns fit. -/
theorem answers_childCondition {catalog : Catalog} {image : ImageRow}
    (hlabels : ∀ child ∈ catalog.childrenOf table image.id, ∃ s, child.label = .text s)
    (hfits : ∀ token ∈ tokens, FitsPattern token) :
    (catalog.subject image).Answers (childCondition table tokens false) := by
  rw [childCondition]
  apply Subject.answers_existsIn
  intro s hs
  obtain ⟨child, hchild, rfl⟩ := List.mem_map.mp hs
  obtain ⟨hcell, haffinity⟩ := subject_matchColumn table child
  obtain ⟨value, hvalue⟩ := hlabels child hchild
  apply Subject.answers_group
  intro item hitem
  obtain ⟨token, htoken, rfl⟩ := List.mem_map.mp hitem
  exact answers_token (hfits token htoken) (hcell.trans hvalue) haffinity

/-- A child row whose label matches a token makes the image satisfy the condition. -/
theorem holds_childCondition {catalog : Catalog} {image : ImageRow} {child : ChildRow}
    {token label : String}
    (hanswers : (catalog.subject image).Answers (childCondition table tokens false))
    (hchild : child ∈ catalog.childrenOf table image.id) (hlabel : child.label = .text label)
    (htoken : token ∈ tokens) (hfits : FitsPattern token) (htokenAscii : IsAscii token)
    (hascii : IsAscii label) (hnulFree : IsNulFree label)
    (hmatch : wildcardMatch token (some label) = true) :
    (catalog.subject image).Holds (childCondition table tokens false) := by
  obtain ⟨hcell, haffinity⟩ := subject_matchColumn table child
  apply ((childCondition_means table tokens).holds_iff hanswers).mpr
  refine ⟨token, htoken, child.subject table, List.mem_map_of_mem hchild, ?_⟩
  exact holds_of_wildcardMatch hfits (hcell.trans hlabel) haffinity htokenAscii hascii hnulFree
    hmatch

end PhotoCatalog.Query
