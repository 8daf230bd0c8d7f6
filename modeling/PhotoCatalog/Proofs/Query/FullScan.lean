import PhotoCatalog.Proofs.Pattern.Translation
import PhotoCatalog.Proofs.Query.Rendered
import PhotoCatalog.Proofs.Query.Trees
import PhotoCatalog.Proofs.Sql.PatternTests

/-!
Columns that no index helps with.  A query names them by what has been noted about its tokens; they
are the columns that its text compares with a bound pattern whose first character is a percent sign,
and those that criteria search with a token that may begin with anything.
-/

namespace PhotoCatalog.Query

open PhotoCatalog.Pattern PhotoCatalog.Sql

section Order

theorem mem_insertSorted {s t : String} {texts : List String} :
    t ∈ insertSorted s texts ↔ t = s ∨ t ∈ texts := by
  induction texts with
  | nil => simp [insertSorted]
  | cons first rest ih =>
      rw [insertSorted]
      split
      · exact List.mem_cons
      · split
        · rename_i hsame
          subst hsame
          simp
        · rw [List.mem_cons, ih, List.mem_cons]
          exact or_left_comm

theorem pairwise_insertSorted {s : String} {texts : List String}
    (htexts : texts.Pairwise (· < ·)) : (insertSorted s texts).Pairwise (· < ·) := by
  induction texts with
  | nil => exact List.pairwise_singleton _ _
  | cons first rest ih =>
      obtain ⟨hfirst, hrest⟩ := List.pairwise_cons.mp htexts
      rw [insertSorted]
      split
      · rename_i hless
        refine List.pairwise_cons.mpr ⟨fun t ht => ?_, htexts⟩
        rcases List.mem_cons.mp ht with rfl | ht
        · exact hless
        · exact String.lt_trans hless (hfirst t ht)
      · rename_i hnotLess
        split
        · exact htexts
        · rename_i hother
          refine List.pairwise_cons.mpr ⟨fun t ht => ?_, ih hrest⟩
          rcases mem_insertSorted.mp ht with rfl | ht
          · exact String.not_le.mp fun hle => hother (String.le_antisymm hle hnotLess)
          · exact hfirst t ht

/-- The texts of a list, whatever their order. -/
theorem mem_sortedSet {t : String} {texts : List String} : t ∈ sortedSet texts ↔ t ∈ texts := by
  induction texts with
  | nil => rfl
  | cons first rest ih =>
      rw [sortedSet, List.foldr_cons, mem_insertSorted, List.mem_cons]
      exact or_congr_right ih

theorem pairwise_sortedSet (texts : List String) : (sortedSet texts).Pairwise (· < ·) := by
  induction texts with
  | nil => exact .nil
  | cons first rest ih => exact pairwise_insertSorted ih

end Order

/-- A column as it is reported: one of a child table carries the name of its table. -/
def qualified (table column : String) : String :=
  if table = imagesTable then column else table ++ "." ++ column

/-- The column that a comparison reads from end to end, as its pattern may begin with anything. -/
def fullScan? (test : PatternTest) : Option String :=
  match test.pattern with
  | .value (.text pattern) =>
    if pattern.toList.head? = some '%' then some (qualified test.table test.column) else none
  | _ => none

def fullScansIn (scope : List (String × String)) (e : Expr) : List String :=
  (e.patternTests scope).filterMap fullScan?

mutual

/-- A tree in which inner queries do not hold others, and in which it is noted of every pattern
whether it begins with a percent sign. -/
def Condition.IsNoted (isInner : Bool) : Condition → Prop
  | .like _ pattern prefixOptimizable =>
    prefixOptimizable = false ↔ pattern.toList.head? = some '%'
  | .anyOf items => AreNoted isInner items
  | .allOf items => AreNoted isInner items
  | .existsIn _ condition => isInner = false ∧ condition.IsNoted true
  | _ => True

def AreNoted (isInner : Bool) : List Condition → Prop
  | [] => True
  | condition :: rest => condition.IsNoted isInner ∧ AreNoted isInner rest

end

section Expressions

variable {scope : List (String × String)} {name table : String} {isInner : Bool}

theorem fullScansIn_groupExpr (scope : List (String × String)) (op : Operator) (empty : String)
    (es : List Expr) :
    fullScansIn scope (groupExpr op empty es) = es.flatMap (fullScansIn scope) := by
  cases es with
  | nil => rfl
  | cons e others =>
      rw [fullScansIn, groupExpr, patternTests_chain, List.filterMap_flatMap]
      rfl

theorem fullScansIn_rangeExpr (low : Value) (high : Option Value) (upperExclusive : Bool)
    (column : String) :
    fullScansIn scope (rangeExpr (.column name column) low high upperExclusive) = [] := by
  cases high with
  | none =>
      rw [rangeExpr, conjunction, fullScansIn_groupExpr]
      rfl
  | some high =>
      rw [rangeExpr]
      cases upperExclusive
      all_goals
        simp only [Bool.false_eq_true, if_false, if_true, conjunction, fullScansIn_groupExpr]
        rfl

theorem fullScansIn_regionExpr (region : Geo.Region) :
    fullScansIn scope (regionExpr name region) = [] := by
  have hboxes : ∀ e ∈ longitudeExprs
      (region.lonBoxes.map (boxExpr (.column name region.lonColumn))),
      fullScansIn scope e = [] := by
    intro e he
    cases hlon : region.lonBoxes with
    | nil => simp [hlon, longitudeExprs] at he
    | cons box boxes =>
        rw [hlon, List.map_cons, longitudeExprs, List.mem_singleton] at he
        rw [he, alternatives, fullScansIn_groupExpr, ← List.map_cons, List.flatMap_map]
        exact List.flatMap_eq_nil_iff.mpr fun _ _ => rfl
  rw [regionExpr, conjunction, fullScansIn_groupExpr, List.flatMap_append, List.flatMap_append,
    List.flatMap_eq_nil_iff.mpr hboxes]
  rfl

theorem fullScansIn_wholeNumber (n : Int) : fullScansIn scope (wholeNumber n) = [] := by
  cases n <;> rfl

mutual

/-- What has been noted about the patterns of a tree is true of its expression. -/
theorem fullScansIn_expr {scope : List (String × String)} {name table : String} {isInner : Bool}
    (hscope : scope.lookup name = some table) (htable : isInner = false → table = imagesTable) :
    (condition : Condition) → condition.IsNoted isInner →
    fullScansIn scope (condition.expr name) = condition.fullScanColumns.map (qualified table)
  | .exact column value noCase, _ => by
      rw [Condition.expr, Condition.fullScanColumns]
      · cases noCase <;> rfl
      all_goals simp
  | .like column pattern prefixOptimizable, hnoted => by
      rw [Condition.IsNoted] at hnoted
      rw [Condition.expr, Condition.fullScanColumns, fullScansIn]
      simp only [Expr.patternTests, hscope]
      cases prefixOptimizable with
      | false => simp [fullScan?, hnoted.mp rfl]
      | true =>
          have hother : pattern.toList.head? ≠ some '%' := fun hhead =>
            absurd (hnoted.mpr hhead) (by decide)
          simp [fullScan?, hother]
  | .range column low high upperExclusive, _ => by
      rw [Condition.expr, Condition.fullScanColumns, fullScansIn_rangeExpr]
      · rfl
      all_goals simp
  | .flag column value, _ => by
      rw [Condition.expr, Condition.fullScanColumns]
      · cases value.toInt with
        | ok n => exact fullScansIn_wholeNumber n
        | error _ => rfl
      all_goals simp
  | .anyOf items, hnoted => by
      rw [Condition.IsNoted] at hnoted
      rw [Condition.expr, Condition.fullScanColumns, alternatives, fullScansIn_groupExpr]
      exact fullScansIn_exprsOf hscope htable items hnoted
  | .allOf items, hnoted => by
      rw [Condition.IsNoted] at hnoted
      rw [Condition.expr, Condition.fullScanColumns, conjunction, fullScansIn_groupExpr]
      exact fullScansIn_exprsOf hscope htable items hnoted
  | .existsIn child condition, hnoted => by
      rw [Condition.IsNoted] at hnoted
      obtain ⟨houter, hnoted⟩ := hnoted
      have hinner : fullScansIn ((child.shortName, child.name) :: scope)
          (condition.expr child.shortName) =
            condition.fullScanColumns.map (qualified child.name) :=
        fullScansIn_expr List.lookup_cons_self (fun h => absurd h (by decide)) condition hnoted
      have hqualified : ∀ column, qualified child.name column = child.name ++ "." ++ column := by
        intro column
        exact if_neg (by cases child <;> decide)
      have himages : qualified imagesTable = id := funext fun _ => if_pos rfl
      rw [Condition.expr, Condition.fullScanColumns, htable houter, himages, List.map_id]
      refine Eq.trans ?_ (hinner.trans (List.map_congr_left fun column _ => hqualified column))
      rfl
  | .within region, _ => by
      rw [Condition.expr, Condition.fullScanColumns, fullScansIn_regionExpr]
      · rfl
      all_goals simp
  | .unknown, _ => by
      rw [Condition.expr, Condition.fullScanColumns]
      · rfl
      all_goals simp

theorem fullScansIn_exprsOf {scope : List (String × String)} {name table : String}
    {isInner : Bool} (hscope : scope.lookup name = some table)
    (htable : isInner = false → table = imagesTable) : (conditions : List Condition) →
    AreNoted isInner conditions →
    (exprsOf name conditions).flatMap (fullScansIn scope) =
      (fullScansOf conditions).map (qualified table)
  | [], _ => by
      rw [exprsOf, fullScansOf]
      rfl
  | condition :: rest, hnoted => by
      rw [AreNoted] at hnoted
      rw [exprsOf, fullScansOf, List.flatMap_cons, List.map_append,
        fullScansIn_expr hscope htable condition hnoted.1,
        fullScansIn_exprsOf hscope htable rest hnoted.2]

end

end Expressions

/-- The comparison of a token may begin with anything: the token begins with an asterisk, or it is
searched for as a part of texts. -/
def BeginsAnywhere (token : String) (substring : Bool) : Prop :=
  token.toList.head? = some '*' ∨ substring = true ∧ hasWildcards token = false

section Tokens

variable {column : String} {isInner : Bool} {items : List Condition}

theorem head?_effectiveToken_iff {token : String} {substring : Bool} :
    (effectiveToken token substring).toList.head? = some '*' ↔ BeginsAnywhere token substring := by
  have hstars : ("*" ++ token ++ "*").toList.head? = some '*' := by simp
  cases substring with
  | false => simp [effectiveToken, BeginsAnywhere]
  | true =>
      cases hwild : hasWildcards token with
      | false => simp only [effectiveToken, BeginsAnywhere, hwild, Bool.not_false, Bool.and_self,
          if_true, hstars, and_self, or_true]
      | true => simp [effectiveToken, BeginsAnywhere, hwild]

theorem hasWildcards_of_head {token : String} (hhead : token.toList.head? = some '*') :
    hasWildcards token = true := by
  have hmem : '*' ∈ token.toList := List.mem_of_mem_head? hhead
  exact List.any_eq_true.mpr ⟨'*', hmem, rfl⟩

/-- It is noted truly which patterns begin with a percent sign, and the columns that are compared
with these are those with the property. -/
def Condition.Scans (isInner : Bool) (condition : Condition) (P : String → Prop) : Prop :=
  condition.IsNoted isInner ∧ ∀ column, column ∈ condition.fullScanColumns ↔ P column

/-- The same of several conditions together. -/
def ScanAll (isInner : Bool) (items : List Condition) (P : String → Prop) : Prop :=
  (∀ item ∈ items, item.IsNoted isInner) ∧
    ∀ column, (∃ item ∈ items, column ∈ item.fullScanColumns) ↔ P column

theorem areNoted_iff : AreNoted isInner items ↔ ∀ item ∈ items, item.IsNoted isInner := by
  induction items with
  | nil => simp [AreNoted]
  | cons item items ih => rw [AreNoted, ih, List.forall_mem_cons]

theorem mem_fullScansOf :
    column ∈ fullScansOf items ↔ ∃ item ∈ items, column ∈ item.fullScanColumns := by
  induction items with
  | nil => simp [fullScansOf]
  | cons item items ih => rw [fullScansOf, List.mem_append, ih, List.exists_mem_cons_iff]

variable {α : Type} {P Q : String → Prop} {others : List Condition}

theorem Condition.Scans.congr {condition : Condition} (hscans : condition.Scans isInner P)
    (hsame : ∀ column, P column ↔ Q column) : condition.Scans isInner Q :=
  ⟨hscans.1, fun column => (hscans.2 column).trans (hsame column)⟩

theorem ScanAll.congr (hall : ScanAll isInner items P) (hsame : ∀ column, P column ↔ Q column) :
    ScanAll isInner items Q :=
  ⟨hall.1, fun column => (hall.2 column).trans (hsame column)⟩

theorem ScanAll.append (hall : ScanAll isInner items P) (hothers : ScanAll isInner others Q) :
    ScanAll isInner (items ++ others) fun column => P column ∨ Q column := by
  refine ⟨List.forall_mem_append.mpr ⟨hall.1, hothers.1⟩, fun column => ?_⟩
  simp only [← hall.2, ← hothers.2, List.mem_append, or_and_right, exists_or]

/-- Conditions that are made of the members of a list. -/
theorem ScanAll.map {f : α → Condition} {R : α → String → Prop}
    (hall : ∀ a, (f a).Scans isInner (R a)) (as : List α) :
    ScanAll isInner (as.map f) fun column => ∃ a ∈ as, R a column := by
  refine ⟨List.forall_mem_map.mpr fun a _ => (hall a).1, fun column => ?_⟩
  simp only [List.mem_map, exists_exists_and_eq_and, (hall _).2]

theorem ScanAll.flatMap {f : α → List Condition} {R : α → String → Prop}
    (hall : ∀ a, ScanAll isInner (f a) (R a)) (as : List α) :
    ScanAll isInner (as.flatMap f) fun column => ∃ a ∈ as, R a column := by
  refine ⟨fun item hitem => ?_, fun column => ?_⟩
  · obtain ⟨a, -, hitem⟩ := List.mem_flatMap.mp hitem
    exact (hall a).1 item hitem
  · constructor
    · rintro ⟨item, hitem, hcolumn⟩
      obtain ⟨a, ha, hitem⟩ := List.mem_flatMap.mp hitem
      exact ⟨a, ha, ((hall a).2 column).mp ⟨item, hitem, hcolumn⟩⟩
    · rintro ⟨a, ha, hR⟩
      obtain ⟨item, hitem, hcolumn⟩ := ((hall a).2 column).mpr hR
      exact ⟨item, List.mem_flatMap.mpr ⟨a, ha, hitem⟩, hcolumn⟩

theorem ScanAll.anyOf (hall : ScanAll isInner items P) :
    (Condition.anyOf items).Scans isInner P := by
  rw [Condition.Scans, Condition.IsNoted, Condition.fullScanColumns, areNoted_iff]
  exact ⟨hall.1, fun column => mem_fullScansOf.trans (hall.2 column)⟩

theorem ScanAll.group (hall : ScanAll isInner items P) :
    (Condition.group items).Scans isInner P := by
  match items with
  | [] | _ :: _ :: _ => exact hall.anyOf
  | [item] =>
      refine ⟨hall.1 item List.mem_cons_self, fun column => ?_⟩
      rw [← hall.2 column]
      simp [Condition.group]

theorem Condition.Scans.existsIn {condition : Condition} (table : ChildTable)
    (hscans : condition.Scans true P) : (Condition.existsIn table condition).Scans false
      fun column => ∃ own, P own ∧ table.name ++ "." ++ own = column := by
  rw [Condition.Scans, Condition.IsNoted, Condition.fullScanColumns]
  refine ⟨⟨rfl, hscans.1⟩, fun column => ?_⟩
  simp only [List.mem_map, hscans.2]

theorem tokenCondition_scans (isInner : Bool) (column token : String) (substring : Bool) :
    (tokenCondition column token substring).Scans isInner fun c =>
      c = column ∧ BeginsAnywhere token substring := by
  let shell := effectiveToken token substring
  have hlike : LikePattern.ofToken token substring = if hasWildcards shell then
      ⟨String.ofList (shell.toList.flatMap likeOfShellChar),
        (shell.toList.flatMap likeOfShellChar).head? != some '%', false⟩
    else ⟨shell, true, true⟩ := rfl
  have hhead : (shell.toList.flatMap likeOfShellChar).head? = some '%' ↔
      BeginsAnywhere token substring :=
    head?_flatMap_eq_percent_iff.trans head?_effectiveToken_iff
  rw [tokenCondition, hlike, Condition.Scans]
  cases hwild : hasWildcards shell with
  | false =>
      have hnot : ¬ BeginsAnywhere token substring := by
        intro hbegins
        rw [hasWildcards_of_head (head?_effectiveToken_iff.mpr hbegins)] at hwild
        exact absurd hwild (by decide)
      simp [Condition.IsNoted, Condition.fullScanColumns, hnot]
  | true =>
      simp only [if_true, Bool.false_eq_true, if_false, Condition.IsNoted,
        Condition.fullScanColumns, String.toList_ofList, bne_eq_false_iff_eq, true_and]
      intro c
      rw [← hhead]
      by_cases hpercent : (shell.toList.flatMap likeOfShellChar).head? = some '%'
      all_goals simp [hpercent]

theorem textCondition_scans (columns tokens : List String) (substring : Bool) :
    (textCondition columns tokens substring).Scans false fun c =>
      c ∈ columns ∧ ∃ token ∈ tokens, BeginsAnywhere token substring := by
  have hitems := ScanAll.flatMap (fun token => ScanAll.map
    (fun column => tokenCondition_scans false column token substring) columns) tokens
  refine hitems.group.congr fun c => ?_
  constructor
  · rintro ⟨token, htoken, column, hcolumn, rfl, hbegins⟩
    exact ⟨hcolumn, token, htoken, hbegins⟩
  · rintro ⟨hcolumn, token, htoken, hbegins⟩
    exact ⟨token, htoken, c, hcolumn, rfl, hbegins⟩

/-- The column of a child table that tokens are compared with, as it is reported. -/
def childColumn (table : ChildTable) : String := table.name ++ "." ++ table.matchColumn

theorem childCondition_scans (table : ChildTable) (tokens : List String) (substring : Bool) :
    (childCondition table tokens substring).Scans false fun c =>
      c = childColumn table ∧ ∃ token ∈ tokens, BeginsAnywhere token substring := by
  have hitems := ScanAll.map (fun token =>
    tokenCondition_scans true table.matchColumn token substring) tokens
  refine (hitems.group.existsIn table).congr fun c => ?_
  constructor
  · rintro ⟨_, ⟨token, htoken, rfl, hbegins⟩, rfl⟩
    exact ⟨rfl, token, htoken, hbegins⟩
  · rintro ⟨rfl, token, htoken, hbegins⟩
    exact ⟨_, ⟨token, htoken, rfl, hbegins⟩, rfl⟩

/-- The columns that free text is compared with, as they are reported. -/
def anyColumns : List String := freeTextColumns ++ ChildTable.all.map childColumn

theorem freeTextItems_scan (token : String) :
    ScanAll false (freeTextItems token) fun c => c ∈ anyColumns ∧ BeginsAnywhere token true := by
  have hcolumns := ScanAll.map (fun column => tokenCondition_scans false column token true)
    freeTextColumns
  have htables := ScanAll.map (fun table => childCondition_scans table [token] true) ChildTable.all
  refine (hcolumns.append htables).congr fun c => ?_
  constructor
  · rintro (⟨column, hcolumn, rfl, hbegins⟩ | ⟨table, htable, rfl, _, hmem, hbegins⟩)
    · exact ⟨List.mem_append_left _ hcolumn, hbegins⟩
    · obtain rfl := List.mem_singleton.mp hmem
      exact ⟨List.mem_append_right _ (List.mem_map_of_mem htable), hbegins⟩
  · rintro ⟨hcolumn, hbegins⟩
    rcases List.mem_append.mp hcolumn with hcolumn | hcolumn
    · exact .inl ⟨c, hcolumn, rfl, hbegins⟩
    · obtain ⟨table, htable, rfl⟩ := List.mem_map.mp hcolumn
      exact .inr ⟨table, htable, rfl, token, List.mem_cons_self, hbegins⟩

theorem freeTextCondition_scans (tokens : List String) :
    (freeTextCondition tokens).Scans false fun c =>
      c ∈ anyColumns ∧ ∃ token ∈ tokens, BeginsAnywhere token true := by
  refine (ScanAll.flatMap freeTextItems_scan tokens).anyOf.congr fun c => ?_
  constructor
  · rintro ⟨token, htoken, hcolumn, hbegins⟩
    exact ⟨hcolumn, token, htoken, hbegins⟩
  · rintro ⟨hcolumn, token, htoken, hbegins⟩
    exact ⟨token, htoken, hcolumn, hbegins⟩

end Tokens

/-- The columns that a token facet looks at, as they are reported. -/
def facetColumns (facet : ListFacet) : List String :=
  match facet.target with
  | .child table => [childColumn table]
  | .columns names => names

/-- A facet compares a column with a token, made plain among paths; free text and paths are searched
for texts that the token is a part of. -/
def SearchesIn (c : Criteria) (facet : Facet) (column token : String) (substring : Bool) : Prop :=
  match facet with
  | .list f => substring = decide (f = .pathLike) ∧ column ∈ facetColumns f ∧
      ∃ asked, c.tokens f = some asked ∧ ∃ raw ∈ asked, plainToken f raw = .ok token
  | .any => substring = true ∧ column ∈ anyColumns ∧ ∃ asked, c.any = some asked ∧ token ∈ asked
  | _ => False

section Facets

variable {c : Criteria} {facet : Facet} {condition : Condition}

theorem plainCondition_scans (facet : ListFacet) (plain : List String) :
    (plainCondition facet plain).Scans false fun column =>
      column ∈ facetColumns facet ∧ ∃ token ∈ plain, BeginsAnywhere token (facet = .pathLike) := by
  cases htarget : facet.target with
  | child table =>
      have hpath : facet ≠ .pathLike := by
        rintro rfl
        cases htarget
      simp only [plainCondition, facetColumns, htarget, hpath, decide_false, List.mem_singleton]
      exact childCondition_scans table plain false
  | columns names =>
      simp only [plainCondition, facetColumns, htarget]
      exact textCondition_scans names plain (facet = .pathLike)

theorem exists_range_of_form {column : String} {form : RangeForm}
    (hform : condition.form = rangeForm column form) :
    ∃ own low high upperExclusive, condition = .range own low high upperExclusive := by
  cases condition with
  | range own low high upperExclusive => exact ⟨own, low, high, upperExclusive, rfl⟩
  | _ => cases form <;> simp [Condition.form, rangeForm] at hform

/-- What is noted about the condition of a facet is what the facet searches. -/
theorem facetCondition_scans (hcondition : facetCondition c facet = .ok (some condition)) :
    condition.Scans false fun column =>
      ∃ token substring, SearchesIn c facet column token substring ∧
        BeginsAnywhere token substring := by
  cases facet with
  | list f =>
      obtain ⟨asked, hasked, hlist⟩ := mapM_eq_ok_some_iff.mp hcondition
      obtain ⟨plain, hplain, rfl⟩ := listCondition_eq_ok hlist
      have hmem : ∀ token, token ∈ plain ↔ ∃ raw ∈ asked, plainToken f raw = .ok token := by
        intro token
        have hmap : Except.ok token ∈ asked.map (plainToken f) ↔ token ∈ plain := by
          simp [hplain]
        simpa using hmap.symm
      refine (plainCondition_scans f plain).congr fun column => ?_
      constructor
      · rintro ⟨hcolumn, token, htoken, hbegins⟩
        exact ⟨token, _, ⟨rfl, hcolumn, asked, hasked, (hmem token).mp htoken⟩, hbegins⟩
      · rintro ⟨token, _, ⟨rfl, hcolumn, asked', hasked', hraw⟩, hbegins⟩
        obtain rfl := Option.some.inj (hasked.symm.trans hasked')
        exact ⟨hcolumn, token, (hmem token).mpr hraw, hbegins⟩
  | range f =>
      obtain ⟨bounds, -, hrange⟩ := mapM_eq_ok_some_iff.mp hcondition
      have hform : ∃ form, condition.form = rangeForm f.column form := by
        rw [rangeCondition] at hrange
        split at hrange
        · obtain ⟨form, -, hform⟩ := dateRange_form hrange
          exact ⟨form, hform⟩
        · exact ⟨_, numericRange_form hrange⟩
      obtain ⟨own, low, high, upperExclusive, rfl⟩ := exists_range_of_form hform.choose_spec
      simp [Condition.Scans, Condition.IsNoted, Condition.fullScanColumns, SearchesIn]
  | flag f =>
      simp only [facetCondition, Except.ok.injEq, Option.ite_none_right_eq_some,
        Option.some.injEq] at hcondition
      rw [← hcondition.2]
      simp [Condition.Scans, Condition.IsNoted, Condition.fullScanColumns, SearchesIn]
  | geoLocation =>
      obtain ⟨place, -, hplace⟩ := mapM_eq_ok_some_iff.mp hcondition
      obtain ⟨region, -, rfl⟩ := map_eq_ok.mp hplace
      simp [Condition.Scans, Condition.IsNoted, Condition.fullScanColumns, SearchesIn]
  | any =>
      simp only [facetCondition, Except.ok.injEq, Option.map_eq_some_iff] at hcondition
      obtain ⟨asked, hasked, rfl⟩ := hcondition
      refine (freeTextCondition_scans asked).congr fun column => ?_
      constructor
      · rintro ⟨hcolumn, token, htoken, hbegins⟩
        exact ⟨token, true, ⟨rfl, hcolumn, asked, hasked, htoken⟩, hbegins⟩
      · rintro ⟨token, _, ⟨rfl, hcolumn, asked', hasked', htoken⟩, hbegins⟩
        obtain rfl := Option.some.inj (hasked.symm.trans hasked')
        exact ⟨hcolumn, token, htoken, hbegins⟩

variable {s : Statement}

/-- What is noted about the conditions of a query is what its criteria search. -/
theorem conditions_scan (hcompile : compile c = .ok s) :
    ScanAll false s.conditions fun column =>
      ∃ facet token substring, SearchesIn c facet column token substring ∧
        BeginsAnywhere token substring := by
  refine ⟨fun condition hmem => ?_, fun column => ?_⟩
  · obtain ⟨facet, hcondition⟩ := (mem_conditions_iff hcompile).mp hmem
    exact (facetCondition_scans hcondition).1
  · constructor
    · rintro ⟨condition, hmem, hcolumn⟩
      obtain ⟨facet, hcondition⟩ := (mem_conditions_iff hcompile).mp hmem
      exact ⟨facet, ((facetCondition_scans hcondition).2 column).mp hcolumn⟩
    · rintro ⟨facet, token, substring, hsearches, hbegins⟩
      obtain ⟨found, hfound⟩ := facetCondition_of_compile hcompile facet
      have hactive : c.isActive facet = true := by
        cases facet with
        | list f =>
            obtain ⟨-, -, asked, hasked, -⟩ := hsearches
            exact Option.isSome_iff_exists.mpr ⟨asked, hasked⟩
        | any =>
            obtain ⟨-, -, asked, hasked, -⟩ := hsearches
            exact Option.isSome_iff_exists.mpr ⟨asked, hasked⟩
        | range _ | flag _ | geoLocation => exact hsearches.elim
      rw [← isSome_eq_isActive hfound] at hactive
      obtain ⟨condition, rfl⟩ := Option.isSome_iff_exists.mp hactive
      exact ⟨condition, (mem_conditions_iff hcompile).mpr ⟨facet, hfound⟩,
        ((facetCondition_scans hfound).2 column).mpr ⟨token, substring, hsearches, hbegins⟩⟩

theorem fullScanColumns_of_compile (hcompile : compile c = .ok s) :
    s.fullScanColumns = sortedSet (fullScansOf s.conditions) := by
  obtain ⟨pairs, -, hcompile⟩ := bind_eq_ok.mp hcompile
  obtain ⟨texts, -, hcompile⟩ := bind_eq_ok.mp hcompile
  simp only [pure_eq_ok] at hcompile
  rw [← hcompile]

/-- The texts of a query spell the expressions of its conditions. -/
theorem compile_spells (hcompile : compile c = .ok s) :
    List.Forall₂ (Written s.params testPower) s.texts (exprsOf imageName s.conditions) := by
  obtain ⟨pairs, hpairs, hconditions, htexts, hparams⟩ := compile_eq_ok hcompile
  have hstem : "p".toList.all isWordChar = true := by decide
  obtain ⟨_, hrun, texts, rfl, hspelled⟩ := renderAll_spells hstem 0 imageName (by decide)
    (pairs.map (·.2)) (areTrees_of_conditionsOf hpairs) [] rfl
  rw [List.nil_append, ← Bindings.start_eq_of] at hrun
  rw [hrun] at htexts hparams
  obtain rfl : texts = s.texts := Except.ok.inj htexts
  rw [← hparams, hconditions]
  exact hspelled _ (stored_of "p" _)

end Facets

/-- A query compares a column with a pattern: in the clause of its text a parameter stands for the
pattern. -/
def Statement.HasPattern (s : Statement) (column pattern : String) : Prop :=
  ∃ clause e, s.sql = queryHead ++ "\nWHERE " ++ clause ++ queryTail ∧ readText clause = some e ∧
    ∃ test ∈ (e.bound s.params).patternTests [(imageName, imagesTable)],
      qualified test.table test.column = column ∧ test.pattern = .value (.text pattern)

section Clause

variable {c : Criteria} {s : Statement} {column : String}

theorem head?_eq_percent_iff {pattern : String} :
    pattern.toList.head? = some '%' ↔ ∃ rest, pattern = "%" ++ rest := by
  constructor
  · intro hhead
    cases hlist : pattern.toList with
    | nil => simp [hlist] at hhead
    | cons c cs =>
        obtain rfl : c = '%' := by simpa [hlist] using hhead
        exact ⟨String.ofList cs, String.toList_inj.mp (by simp [hlist])⟩
  · rintro ⟨rest, rfl⟩
    simp

theorem mem_fullScansIn {scope : List (String × String)} {e : Expr} :
    column ∈ fullScansIn scope e ↔ ∃ rest, ∃ test ∈ e.patternTests scope,
      qualified test.table test.column = column ∧ test.pattern = .value (.text ("%" ++ rest)) := by
  rw [fullScansIn, List.mem_filterMap]
  constructor
  · rintro ⟨test, htest, hscan⟩
    rw [fullScan?] at hscan
    split at hscan
    · rename_i pattern hpattern
      obtain ⟨hhead, hcolumn⟩ := Option.ite_none_right_eq_some.mp hscan
      obtain ⟨rest, rfl⟩ := head?_eq_percent_iff.mp hhead
      exact ⟨rest, test, htest, Option.some.inj hcolumn, hpattern⟩
    · cases hscan
  · rintro ⟨rest, test, htest, hcolumn, hpattern⟩
    refine ⟨test, htest, ?_⟩
    rw [fullScan?, hpattern]
    simp [hcolumn]

theorem readText_clause (hcompile : compile c = .ok s) (hne : s.texts ≠ []) :
    ∃ e, readText (clauseText s.texts) = some e ∧
      e.bound s.params = conjunction (exprsOf imageName s.conditions) :=
  readText_clauseText (compile_spells hcompile) hne

/-- A query has one clause, if it has any. -/
theorem clause_unique {clause : String}
    (hsql : s.sql = queryHead ++ "\nWHERE " ++ clause ++ queryTail) :
    s.texts ≠ [] ∧ clause = clauseText s.texts := by
  rw [Statement.sql, statementText_eq] at hsql
  have hne : s.texts ≠ [] := by
    intro hnil
    have hlength := congrArg String.length hsql
    have hwhere : "\nWHERE ".length = 7 := rfl
    rw [hnil, List.isEmpty_nil, if_pos rfl, String.append_empty] at hlength
    simp only [String.length_append, hwhere] at hlength
    omega
  rw [if_neg (by simpa using hne), ← String.append_assoc] at hsql
  have hlists := congrArg String.toList hsql
  simp only [String.toList_append] at hlists
  have hclause := List.append_cancel_left (List.append_cancel_right hlists)
  exact ⟨hne, String.toList_inj.mp hclause.symm⟩

theorem mem_fullScansOf_iff_hasPattern (hcompile : compile c = .ok s) :
    column ∈ fullScansOf s.conditions ↔ ∃ rest, s.HasPattern column ("%" ++ rest) := by
  have hnoted : AreNoted false s.conditions := areNoted_iff.mpr (conditions_scan hcompile).1
  have himages : qualified imagesTable = id := funext fun _ => if_pos rfl
  have hscans : fullScansIn [(imageName, imagesTable)]
      (conjunction (exprsOf imageName s.conditions)) = fullScansOf s.conditions := by
    rw [conjunction, fullScansIn_groupExpr, fullScansIn_exprsOf List.lookup_cons_self
      (fun _ => rfl) s.conditions hnoted, himages, List.map_id]
  rw [← hscans, mem_fullScansIn]
  constructor
  · rintro ⟨rest, htest⟩
    have hne : s.texts ≠ [] := by
      intro hnil
      have hlength := (compile_spells hcompile).length_eq
      rw [hnil] at hlength
      obtain ⟨test, hmem, -⟩ := htest
      rw [List.length_eq_zero_iff.mp hlength.symm] at hmem
      exact absurd hmem List.not_mem_nil
    obtain ⟨e, hread, hbound⟩ := readText_clause hcompile hne
    refine ⟨rest, clauseText s.texts, e, ?_, hread, hbound ▸ htest⟩
    rw [Statement.sql, statementText_eq, if_neg (by simpa using hne), ← String.append_assoc]
  · rintro ⟨rest, clause, e, hsql, hread, htest⟩
    obtain ⟨hne, rfl⟩ := clause_unique hsql
    obtain ⟨e', hread', hbound⟩ := readText_clause hcompile hne
    obtain rfl := Option.some.inj (hread.symm.trans hread')
    exact ⟨rest, hbound ▸ htest⟩

theorem lacks_rowsColumn {table : ChildTable} {name result : String}
    (htable : lacks 'K' table.name = true) (hmatch : lacks 'K' table.matchColumn = true)
    (hname : lacks 'K' name = true) (hresult : lacks 'K' result = true) :
    lacks 'K' (rowsColumn table name result) = true := by
  let columns := [table.matchColumn, "confidence", "x_min", "y_min", "x_max", "y_max"]
  let pair (c : String) : String := "'" ++ c ++ "', " ++ (name ++ "." ++ c)
  have hcolumns : ∀ c ∈ columns, lacks 'K' c = true := by
    rw [List.forall_mem_cons]
    exact ⟨hmatch, by decide⟩
  have hpairs : ∀ text ∈ columns.map pair, lacks 'K' text = true := by
    intro text htext
    obtain ⟨c, hc, rfl⟩ := List.mem_map.mp htext
    simp only [pair, lacks_append, hcolumns c hc, hname]
    decide
  have hall : lacks 'K' (", ".intercalate (columns.map pair)) = true :=
    lacks_intercalate (by decide) hpairs
  have htext : rowsColumn table name result = "(SELECT json_group_array(json_object(" ++
      ", ".intercalate (columns.map pair) ++ ")) FROM " ++ table.name ++ " " ++ name ++ " WHERE " ++
      name ++ ".image_id = " ++ imageName ++ ".id) AS " ++ result := rfl
  rw [htext]
  simp only [lacks_append, hall, htable, hname, hresult]
  decide

/-- Outside of its clause a query compares nothing with a pattern. -/
theorem like_only_in_clause :
    Token.keyword .like ∉ Sql.tokensOf queryHead ∧
      Token.keyword .like ∉ Sql.tokensOf queryTail := by
  have hletter : 'K' ∈ Keyword.like.word.toList := by decide
  have hpeople : lacks 'K' (rowsColumn .people "pr" peopleRowsColumn) = true :=
    lacks_rowsColumn (by decide) (by decide) (by decide) (by decide)
  have hobjects : lacks 'K' (rowsColumn .objects "orow" objectRowsColumn) = true :=
    lacks_rowsColumn (by decide) (by decide) (by decide) (by decide)
  have hselect : lacks 'K' selectColumns = true := by
    refine lacks_intercalate (by decide) ?_
    rw [List.forall_mem_cons, List.forall_mem_cons, List.forall_mem_singleton]
    exact ⟨by decide, hpeople, hobjects⟩
  constructor
  · apply keyword_not_mem_tokensOf _ hletter
    simp only [queryHead, lacks_append, hselect]
    decide
  · exact keyword_not_mem_tokensOf (by decide) hletter

end Clause

/-- The columns that a query reports are in order, each once.  They are those that its text compares
with a bound pattern that begins with a percent sign, and those that its criteria search with a
token that begins with an asterisk, or for texts of which a token without wildcards is a part. -/
theorem fullScanColumns_are_those_with_leading_wildcards {c : Criteria} {s : Statement}
    (hcompile : compile c = .ok s) :
    s.fullScanColumns.Pairwise (· < ·) ∧
      (Token.keyword .like ∉ Sql.tokensOf queryHead ∧
        Token.keyword .like ∉ Sql.tokensOf queryTail) ∧
      (∀ column, column ∈ s.fullScanColumns ↔ ∃ rest, s.HasPattern column ("%" ++ rest)) ∧
      ∀ column, column ∈ s.fullScanColumns ↔ ∃ facet token substring,
        SearchesIn c facet column token substring ∧
          (token.toList.head? = some '*' ∨ substring = true ∧ hasWildcards token = false) := by
  rw [fullScanColumns_of_compile hcompile]
  refine ⟨pairwise_sortedSet _, like_only_in_clause, fun column => ?_, fun column => ?_⟩
  · exact mem_sortedSet.trans (mem_fullScansOf_iff_hasPattern hcompile)
  · exact mem_sortedSet.trans (mem_fullScansOf.trans ((conditions_scan hcompile).2 column))

/-- Keywords of which one may begin with anything, a part of a path, and a camera whose name begins
with a percent sign of its own. -/
def scanningCriteria : Criteria where
  tokens := fun
    | .keywords => some ["*cat", "dog"]
    | .pathLike => some ["beach"]
    | .cameraMake => some ["%x*"]
    | _ => none
  any := none
  bounds := fun _ => none
  flags := fun _ => false
  place := none
  minConfidence := none

/-- A percent sign that stands for itself is escaped, so that its column is not reported. -/
theorem fullScanColumns_of_scanningCriteria :
    ∃ s, compile scanningCriteria = .ok s ∧ s.fullScanColumns = ["image_keywords.keyword", "path"] ∧
      (∃ rest, s.HasPattern "image_keywords.keyword" ("%" ++ rest)) ∧
      (∃ rest, s.HasPattern "path" ("%" ++ rest)) ∧
      (¬ ∃ rest, s.HasPattern "camera_make" ("%" ++ rest)) ∧
      ∃ facet token substring, SearchesIn scanningCriteria facet "path" token substring ∧
        (token.toList.head? = some '*' ∨ substring = true ∧ hasWildcards token = false) := by
  have hcolumns : (compile scanningCriteria).map (·.fullScanColumns) =
      .ok ["image_keywords.keyword", "path"] := rfl
  obtain ⟨s, hcompile, hs⟩ := map_eq_ok.mp hcolumns
  obtain ⟨-, -, hpatterns, hsearches⟩ :=
    fullScanColumns_are_those_with_leading_wildcards hcompile
  refine ⟨s, hcompile, hs, (hpatterns _).mp ?_, (hpatterns _).mp ?_, fun hcamera => ?_,
    (hsearches _).mp ?_⟩
  · rw [hs]
    decide
  · rw [hs]
    decide
  · have hmem := (hpatterns _).mpr hcamera
    rw [hs] at hmem
    exact absurd hmem (by decide)
  · rw [hs]
    decide

end PhotoCatalog.Query
