import PhotoCatalog.Proofs.Query.Spelled

/-!
Conditions are written truly.  The expression that a tree of conditions spells has the truth of the
tree in every world, so the parentheses that are written are enough, and so the clause of a query is
true, false or neither exactly as its conditions together.
-/

namespace PhotoCatalog.Query

open PhotoCatalog.Catalog PhotoCatalog.Sql

section Truth

variable {Row : Type} (world : World Row) (scope : Scope Row)

theorem truth_conjunction (es : List Expr) :
    (conjunction es).truth world scope = allTrue (es.map (Expr.truth world scope)) := by
  cases es with
  | nil => rfl
  | cons e others => exact truth_chain_and world scope e others

theorem truth_alternatives (es : List Expr) :
    (alternatives es).truth world scope = someTrue (es.map (Expr.truth world scope)) := by
  cases es with
  | nil => rfl
  | cons e others => exact truth_chain_or world scope e others

theorem truth_rangeExpr (column : Expr) (low : Value) (high : Option Value)
    (upperExclusive : Bool) :
    (rangeExpr column low high upperExclusive).truth world scope =
      rangeTruth world scope column low high upperExclusive := by
  cases high with
  | none => exact truth_conjunction world scope [_, _]
  | some high =>
      cases upperExclusive with
      | true => exact truth_conjunction world scope [_, _, _]
      | false => exact truth_conjunction world scope [_, _]

theorem truth_longitudeExprs (es : List Expr) :
    (longitudeExprs es).map (Expr.truth world scope) =
      if es.isEmpty then [] else [someTrue (es.map (Expr.truth world scope))] := by
  cases es with
  | nil => rfl
  | cons e others => exact congrArg ([·]) (truth_alternatives world scope (e :: others))

theorem truth_regionExpr (name : String) (region : Geo.Region) :
    (regionExpr name region).truth world scope = regionTruth world scope name region := by
  rw [regionExpr, truth_conjunction, List.map_append, List.map_append, truth_longitudeExprs,
    List.isEmpty_map, List.map_map]
  rfl

mutual

/-- The expression of a tree has the truth of the tree. -/
theorem truth_expr (name : String) (scope : Scope Row) : (condition : Condition) →
    condition.IsTree → (condition.expr name).truth world scope = condition.truth world scope name
  | .exact column value noCase, _ => by
      rw [Condition.expr, Condition.truth]
      rfl
  | .like column pattern _, _ => by
      rw [Condition.expr, Condition.truth]
      rfl
  | .range column low high upperExclusive, _ => by
      rw [Condition.expr, Condition.truth]
      exact truth_rangeExpr world scope _ low high upperExclusive
  | .flag column value, htree => by
      rw [Condition.IsTree] at htree
      obtain ⟨-, n, hvalue⟩ := htree
      rw [Condition.expr, Condition.truth, hvalue]
      rfl
  | .anyOf items, htree => by
      rw [Condition.IsTree] at htree
      rw [Condition.expr, Condition.truth, truth_alternatives, truths_exprsOf name scope items htree]
  | .allOf items, htree => by
      rw [Condition.IsTree] at htree
      rw [Condition.expr, Condition.truth, truth_conjunction, truths_exprsOf name scope items htree]
  | .existsIn table condition, htree => by
      rw [Condition.IsTree] at htree
      have hinner := fun row =>
        truth_expr table.shortName ((table.shortName, row) :: scope) condition htree
      simp only [Condition.expr, Condition.truth, Expr.truth, hinner]
  | .within region, _ => by
      rw [Condition.expr, Condition.truth]
      exact truth_regionExpr world scope name region
  | .unknown, htree => by
      rw [Condition.IsTree] at htree
      exact htree.elim

theorem truths_exprsOf (name : String) (scope : Scope Row) : (conditions : List Condition) →
    AreTrees conditions → (exprsOf name conditions).map (Expr.truth world scope) =
      truthsOf world scope name conditions
  | [], _ => by
      rw [exprsOf, truthsOf]
      rfl
  | condition :: rest, htrees => by
      rw [AreTrees] at htrees
      rw [exprsOf, truthsOf, List.map_cons, truth_expr name scope condition htrees.1,
        truths_exprsOf name scope rest htrees.2]

end

end Truth

/-- How the conditions of a query are joined. -/
theorem joins_conditions : Joins .and "\n  AND " where
  breaks := by rintro c ⟨⟩; decide
  nonempty := by decide
  closes := fun _ => rfl

/-- The conditions of a query as they stand in its text. -/
def clauseText (texts : List String) : String := "\n  AND ".intercalate texts

/-- The text of a query up to its conditions. -/
def queryHead : String :=
  "SELECT " ++ selectColumns ++ "\nFROM " ++ imagesTable ++ " " ++ imageName

/-- The text of a query behind its conditions. -/
def queryTail : String := "\nORDER BY " ++ imageName ++ ".path"

theorem statementText_eq (texts : List String) :
    statementText texts =
      queryHead ++ (if texts.isEmpty then "" else "\nWHERE " ++ clauseText texts) ++ queryTail := by
  have htail : queryTail = "\nORDER BY " ++ imageName ++ ".path" := rfl
  rw [htail, ← String.append_assoc, ← String.append_assoc]
  rfl

/-- The clause of a query is read as the conjunction of what its conditions spell. -/
theorem readText_clauseText {params : List (String × Value)} {texts : List String} {es : List Expr}
    (hall : List.Forall₂ (Written params testPower) texts es) (hne : texts ≠ []) :
    ∃ e, readText (clauseText texts) = some e ∧ e.bound params = conjunction es := by
  cases hall with
  | nil => exact absurd rfl hne
  | cons hfirst hrest =>
      have hchain := (hfirst.weaken (show Operator.and.power ≤ testPower by decide)).chain
        joins_conditions hrest
      exact hchain.readText (by decide)

/-- Every list of trees is written; a query without conditions takes all rows, and the clause of
any other is read as an expression that is true, false or neither exactly as the trees together,
whatever truth the comparisons have. -/
theorem whereClause_has_truth_of_conditions {conditions : List Condition}
    (htrees : AreTrees conditions) :
    ∃ texts bindings, (renderAll imageName conditions).run (.start "p") = (.ok texts, bindings) ∧
      (conditions = [] → statementText texts = queryHead ++ queryTail) ∧
      (conditions ≠ [] →
        statementText texts = queryHead ++ "\nWHERE " ++ clauseText texts ++ queryTail ∧
        ∃ e, readText (clauseText texts) = some e ∧
          ∀ (Row : Type) (world : World Row) (scope : Scope Row),
            (e.bound bindings.params).truth world scope =
              allTrue (truthsOf world scope imageName conditions)) := by
  have hstem : "p".toList.all isWordChar = true := by decide
  obtain ⟨_, hrun, texts, rfl, hspelled⟩ :=
    renderAll_spells hstem 0 imageName (by decide) conditions htrees [] rfl
  rw [List.nil_append, ← Bindings.start_eq_of] at hrun
  have hall := hspelled _ (stored_of "p" _)
  refine ⟨texts, _, hrun, ?_, ?_⟩
  · rintro rfl
    rw [exprsOf] at hall
    obtain rfl : texts = [] := List.forall₂_nil_right_iff.mp hall
    rw [statementText_eq, List.isEmpty_nil, if_pos rfl, String.append_empty]
  · intro hne
    have htexts : texts ≠ [] := by
      rintro rfl
      obtain ⟨condition, rest, rfl⟩ := List.exists_cons_of_ne_nil hne
      rw [exprsOf] at hall
      cases hall
    obtain ⟨e, hread, hbound⟩ := readText_clauseText hall htexts
    refine ⟨?_, e, hread, fun Row world scope => ?_⟩
    · rw [statementText_eq, if_neg (by simpa using htexts), ← String.append_assoc]
    · rw [hbound, truth_conjunction, truths_exprsOf world imageName scope conditions htrees]

/-- Groups within groups, within an inner query and without members. -/
def nestedConditions : List Condition :=
  [.anyOf [.exact "camera_make" (.text "x' OR 1") true,
      .allOf [.flag "has_nudity" (.int 0), .range "width" (.int 1) (some (.int 9)) false]],
    .existsIn .people (.anyOf [.like "name" "A%" true, .exact "name" (.text "B") true, .anyOf []])]

theorem nestedConditions_clause :
    AreTrees nestedConditions ∧ ∃ e,
      readText (clauseText ["(i.camera_make = :p0 COLLATE NOCASE OR (i.has_nudity = 0 AND " ++
          "(i.width IS NOT NULL AND i.width BETWEEN :p1 AND :p2)))",
        "EXISTS (SELECT 1 FROM image_people p WHERE p.image_id = i.id AND " ++
          "(p.name LIKE :p3 ESCAPE '\\' OR p.name = :p4 COLLATE NOCASE OR 0))"]) = some e ∧
      ∀ (Row : Type) (world : World Row) (scope : Scope Row),
        (e.bound (Bindings.of "p" (valuesOf nestedConditions)).params).truth world scope =
          allTrue (truthsOf world scope imageName nestedConditions) := by
  have htrees : AreTrees nestedConditions := by
    simp only [nestedConditions, AreTrees, Condition.IsTree]
    exact ⟨⟨by decide, ⟨⟨by decide, 0, rfl⟩, by decide, trivial⟩, trivial⟩,
      ⟨by decide, by decide, trivial, trivial⟩, trivial⟩
  obtain ⟨texts, bindings, hrun, -, hclause⟩ := whereClause_has_truth_of_conditions htrees
  obtain ⟨-, e, hread, htruth⟩ := hclause (by simp [nestedConditions])
  have hwritten : (renderAll imageName nestedConditions).run (.start "p") =
      (.ok ["(i.camera_make = :p0 COLLATE NOCASE OR (i.has_nudity = 0 AND " ++
          "(i.width IS NOT NULL AND i.width BETWEEN :p1 AND :p2)))",
        "EXISTS (SELECT 1 FROM image_people p WHERE p.image_id = i.id AND " ++
          "(p.name LIKE :p3 ESCAPE '\\' OR p.name = :p4 COLLATE NOCASE OR 0))"],
        Bindings.of "p" (valuesOf nestedConditions)) := by
    rfl
  obtain ⟨htexts, rfl⟩ := Prod.mk.inj (hrun.symm.trans hwritten)
  obtain rfl := Except.ok.inj htexts
  exact ⟨htrees, e, hread, htruth⟩

end PhotoCatalog.Query
