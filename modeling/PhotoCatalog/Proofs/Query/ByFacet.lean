import Mathlib.Data.List.Infix
import PhotoCatalog.Proofs.Query.Rendered
import PhotoCatalog.Proofs.Query.Renumbered
import PhotoCatalog.Proofs.Query.Trees
import PhotoCatalog.Record.Threshold

/-!
Queries facet by facet.  A query has a condition for each active facet, in order, and says in its
place what the query for that facet alone says; the threshold on confidences reads the same facets
when it decides which records may be dropped.
-/

namespace PhotoCatalog

/-- The criteria that ask for a facet as these do, and for nothing else. -/
def Criteria.alone (c : Criteria) (facet : Facet) : Criteria :=
  { c.only facet with minConfidence := none }

/-- The detection facets that a record has to match once the threshold has been applied. -/
def Criteria.requested (c : Criteria) : List (ListFacet × List String) :=
  detectionFacets.filterMap fun facet => (c.tokens facet).map (facet, ·)

namespace Query

open PhotoCatalog.Sql

/-- A query that is put together from other ones, each with a single condition, when values have
been bound before: conditions and values come in order, and the text of a condition is numbered on
from the values bound so far.  The last list holds all values that are bound in the end. -/
inductive Composed :
    List Value → List Statement → List Condition → List String → List Value → Prop where
  | nil {bound : List Value} : Composed bound [] [] [] bound
  | cons {bound values all : List Value} {part : Statement} {parts : List Statement}
      {condition : Condition} {conditions : List Condition} {text text' : String}
      {texts : List String} (hcondition : part.conditions = [condition])
      (htext : part.texts = [text]) (hvalues : part.params = (Bindings.of "p" values).params)
      (hmoved : Renumbered "p" 0 bound.length text text')
      (hrest : Composed (bound ++ values) parts conditions texts all) :
      Composed bound (part :: parts) (condition :: conditions) (text' :: texts) all

/-- The parentheses that are open behind a character, and whether it is quoted. -/
def nest (place : Nat × Bool) (c : Char) : Nat × Bool :=
  if c = '\'' then (place.1, !place.2)
  else if place.2 then place
  else if c = '(' then (place.1 + 1, false)
  else if c = ')' then (place.1 - 1, false)
  else place

/-- The characters of a query that stand outside of parentheses and quotation marks. -/
def outermost (place : Nat × Bool) : List Char → List Char
  | [] => []
  | c :: rest =>
    if place = (0, false) then c :: outermost (nest place c) rest
    else outermost (nest place c) rest

/-- Whether a query has conditions of its own, apart from those of the queries inside of it. -/
def HasWhere (sql : String) : Prop := "WHERE".toList <:+: outermost (0, false) sql.toList

variable {c : Criteria} {facets : List Facet} {pairs : List (Facet × Condition)} {facet : Facet}
  {condition : Condition}

theorem activeFacets_of_conditionsFor (hpairs : conditionsFor c facets = .ok pairs) :
    pairs.map (·.1) = facets.filter c.isActive := by
  induction facets generalizing pairs with
  | nil =>
      simp only [conditionsFor, Except.ok.injEq] at hpairs
      simp [← hpairs]
  | cons facet rest ih =>
      obtain ⟨found, hfound, hpairs⟩ := bind_eq_ok.mp hpairs
      have hactive := isSome_eq_isActive hfound
      cases found with
      | none => rw [List.filter_cons_of_neg (by simp [← hactive]), ih hpairs]
      | some condition =>
          obtain ⟨tail, htail, hpairs⟩ := bind_eq_ok.mp hpairs
          simp only [pure_eq_ok] at hpairs
          rw [← hpairs, List.map_cons, ih htail, List.filter_cons_of_pos (by simp [← hactive])]

theorem conditionsFor_filter (keeps : Facet → Bool) (hpairs : conditionsFor c facets = .ok pairs) :
    conditionsFor c (facets.filter keeps) = .ok (pairs.filter fun pair => keeps pair.1) := by
  induction facets generalizing pairs with
  | nil =>
      simp only [conditionsFor, Except.ok.injEq] at hpairs
      simp [← hpairs, conditionsFor]
  | cons facet rest ih =>
      obtain ⟨found, hfound, hpairs⟩ := bind_eq_ok.mp hpairs
      cases found with
      | none =>
          cases hkeeps : keeps facet with
          | false => rw [List.filter_cons_of_neg (by simp [hkeeps]), ih hpairs]
          | true =>
              rw [List.filter_cons_of_pos hkeeps, conditionsFor, hfound, ok_bind]
              exact ih hpairs
      | some condition =>
          obtain ⟨tail, htail, hpairs⟩ := bind_eq_ok.mp hpairs
          simp only [pure_eq_ok] at hpairs
          subst hpairs
          cases hkeeps : keeps facet with
          | false =>
              rw [List.filter_cons_of_neg (by simp [hkeeps]), ih htail,
                List.filter_cons_of_neg (by simp [hkeeps])]
          | true =>
              rw [List.filter_cons_of_pos hkeeps, conditionsFor, hfound, ok_bind, ih htail,
                List.filter_cons_of_pos (by simp [hkeeps])]
              rfl

theorem conditionsFor_inactive (hnone : ∀ facet ∈ facets, facetCondition c facet = .ok none) :
    conditionsFor c facets = .ok [] := by
  induction facets with
  | nil => rfl
  | cons facet rest ih =>
      obtain ⟨hfirst, hrest⟩ := List.forall_mem_cons.mp hnone
      rw [conditionsFor, hfirst]
      exact ih hrest

theorem conditionsFor_single (hnodup : facets.Nodup) (hmem : facet ∈ facets)
    (hcondition : facetCondition c facet = .ok (some condition))
    (hothers : ∀ other, other ≠ facet → facetCondition c other = .ok none) :
    conditionsFor c facets = .ok [(facet, condition)] := by
  induction facets with
  | nil => exact absurd hmem List.not_mem_nil
  | cons first rest ih =>
      obtain ⟨hnotMem, hnodup⟩ := List.nodup_cons.mp hnodup
      by_cases hfirst : first = facet
      · subst hfirst
        have hrest : conditionsFor c rest = .ok [] := by
          refine conditionsFor_inactive fun other hother => hothers other ?_
          rintro rfl
          exact hnotMem hother
        rw [conditionsFor, hcondition, ok_bind, hrest]
        rfl
      · have hmem := (List.mem_cons.mp hmem).resolve_left fun heq => hfirst heq.symm
        rw [conditionsFor, hothers first hfirst, ok_bind]
        exact ih hnodup hmem

theorem facetCondition_alone (c : Criteria) (kept facet : Facet) :
    facetCondition (c.alone kept) facet =
      if kept = facet then facetCondition c facet else .ok none := by
  rw [← facetCondition_only]
  cases facet <;> rfl

/-- Alone, a facet has the condition that it has beside others. -/
theorem conditionsOf_alone (hcondition : facetCondition c facet = .ok (some condition)) :
    conditionsOf (c.alone facet) = .ok [(facet, condition)] := by
  refine conditionsFor_single (by decide) facet.mem_all ?_ fun other hother => ?_
  · rw [facetCondition_alone, if_pos rfl, hcondition]
  · rw [facetCondition_alone, if_neg hother.symm]

/-- The query of a facet alone. -/
theorem compile_alone (hcondition : facetCondition c facet = .ok (some condition)) :
    ∃ part text, compile (c.alone facet) = .ok part ∧ part.conditions = [condition] ∧
      part.texts = [text] ∧ part.params = (Bindings.of "p" condition.values).params ∧
      (condition.render imageName).run (.of "p" []) = (.ok text, .of "p" condition.values) := by
  have htree := isTree_of_facetCondition hcondition
  have hstem : "p".toList.all isWordChar = true := by decide
  obtain ⟨_, hrun, text, rfl, -⟩ :=
    render_spells hstem 0 imageName (by decide) condition htree [] rfl
  rw [List.nil_append] at hrun
  have hrunAll : (renderAll imageName [condition]).run (Bindings.start "p") =
      (.ok [text], .of "p" condition.values) := by
    rw [Bindings.start_eq_of, renderAll, ExceptT.run_bind, run_bind, hrun]
    rfl
  refine ⟨⟨[condition], [text], (Bindings.of "p" condition.values).params,
    sortedSet (fullScansOf [condition])⟩, text, ?_, rfl, rfl, rfl, hrun⟩
  rw [compile, conditionsOf_alone hcondition, ok_bind]
  simp only [List.map_cons, List.map_nil, hrunAll, ok_bind]
  rfl

/-- Behind other values the text of a condition is the same but for the numbers of its
placeholders. -/
theorem render_behind (htree : condition.IsTree) (bound : List Value) {text : String}
    {bindings : Bindings}
    (hrun : (condition.render imageName).run (.of "p" []) = (.ok text, bindings)) :
    ∃ text', (condition.render imageName).run (.of "p" bound) =
        (.ok text', .of "p" (bound ++ condition.values)) ∧
      Renumbered "p" 0 bound.length text text' := by
  have hname : isName imageName = true := by decide
  have hstem : "p".toList.all isWordChar = true := by decide
  obtain ⟨_, hrun', text', rfl, -⟩ :=
    render_spells hstem bound.length imageName hname condition htree bound rfl
  have hsame : Moved "p" 0 bound.length (SameOutcome (Renumbered "p" 0 bound.length))
      (condition.render imageName).run (condition.render imageName).run :=
    render_moved imageName hname condition htree
  obtain ⟨result, result', values, hresult, hresult', hmoved⟩ := hsame 0 [] bound rfl rfl
  obtain rfl : result = .ok text := (congrArg Prod.fst (hrun.symm.trans hresult)).symm
  obtain rfl : result' = .ok text' := (congrArg Prod.fst (hrun'.symm.trans hresult')).symm
  cases hmoved with
  | ok hmoved => exact ⟨text', hrun', hmoved⟩

theorem composed_of_conditions
    (hall : ∀ pair ∈ pairs, facetCondition c pair.1 = .ok (some pair.2)) (bound : List Value) :
    ∃ parts texts all,
      List.Forall₂ (fun pair part => compile (c.alone pair.1) = .ok part) pairs parts ∧
      (renderAll imageName (pairs.map (·.2))).run (.of "p" bound) = (.ok texts, .of "p" all) ∧
      Composed bound parts (pairs.map (·.2)) texts all := by
  induction pairs generalizing bound with
  | nil => exact ⟨[], [], bound, .nil, rfl, .nil⟩
  | cons pair rest ih =>
      obtain ⟨hfirst, hrest⟩ := List.forall_mem_cons.mp hall
      obtain ⟨part, text, hpart, hcondition, htext, hvalues, hrun⟩ := compile_alone hfirst
      obtain ⟨text', hrun', hmoved⟩ :=
        render_behind (isTree_of_facetCondition hfirst) bound hrun
      obtain ⟨parts, texts, all, hparts, hruns, hcomposed⟩ := ih hrest (bound ++ pair.2.values)
      refine ⟨part :: parts, text' :: texts, all, .cons hpart hparts, ?_,
        .cons hcondition htext hvalues hmoved hcomposed⟩
      rw [List.map_cons, renderAll, ExceptT.run_bind, run_bind, hrun']
      change ((renderAll imageName (rest.map (·.2)) >>= fun texts => pure (text' :: texts)) :
        Writing _).run _ = _
      rw [ExceptT.run_bind, run_bind, hruns]
      rfl

theorem Composed.length_eq {bound all : List Value} {parts : List Statement}
    {conditions : List Condition} {texts : List String}
    (hcomposed : Composed bound parts conditions texts all) : texts.length = conditions.length := by
  induction hcomposed with
  | nil => rfl
  | cons _ _ _ _ _ ih => rw [List.length_cons, List.length_cons, ih]

section Where

theorem outermost_append (place : Nat × Bool) (cs ds : List Char) :
    outermost place (cs ++ ds) = outermost place cs ++ outermost (cs.foldl nest place) ds := by
  induction cs generalizing place with
  | nil => rfl
  | cons c rest ih =>
      rw [List.cons_append, outermost, outermost, List.foldl_cons, ih]
      split <;> simp

/-- The text of a query up to its conditions, without what stands in parentheses. -/
def headOutline : String :=
  "SELECT i.*,\n       ( AS people_rows,\n       ( AS object_rows\nFROM images i"

theorem outermost_queryHead :
    outermost (0, false) queryHead.toList = headOutline.toList ∧
      queryHead.toList.foldl nest (0, false) = (0, false) := by
  unfold queryHead selectColumns rowsColumn
  simp only [List.map_cons, List.map_nil, String.intercalate_cons_cons,
    String.intercalate_singleton, String.toList_append, outermost_append, List.foldl_append]
  decide +kernel

/-- The text of a query has conditions of its own exactly when there are any. -/
theorem hasWhere_statementText (texts : List String) :
    HasWhere (statementText texts) ↔ texts ≠ [] := by
  obtain ⟨hhead, hplace⟩ := outermost_queryHead
  rw [HasWhere, statementText_eq, String.toList_append, String.toList_append, List.append_assoc,
    outermost_append, hhead, hplace]
  cases texts with
  | nil =>
      have hnone : ¬"WHERE".toList <:+:
          headOutline.toList ++ outermost (0, false) queryTail.toList := by
        decide +kernel
      simpa using hnone
  | cons text rest =>
      have hstart : outermost (0, false) "\nWHERE ".toList = "\nWHERE ".toList ∧
          "\nWHERE ".toList.foldl nest (0, false) = (0, false) := by
        decide
      have hwhere : "WHERE".toList <:+: "\nWHERE ".toList := by decide
      rw [List.isEmpty_cons, if_neg Bool.false_ne_true, String.toList_append, List.append_assoc,
        outermost_append, hstart.1]
      simp only [ne_eq, reduceCtorEq, not_false_eq_true, iff_true]
      exact hwhere.trans (List.infix_append' headOutline.toList _ _)

end Where

/-- The detection facets that are asked for are those that have conditions, with the same tokens. -/
theorem requested_of_conditionsFor {facets : List ListFacet}
    (hpairs : conditionsFor c (facets.map .list) = .ok pairs) :
    List.Forall₂ (fun asked pair => pair.1 = .list asked.1 ∧
        listCondition asked.1 asked.2 = .ok pair.2)
      (facets.filterMap fun facet => (c.tokens facet).map (facet, ·)) pairs := by
  induction facets generalizing pairs with
  | nil =>
      simp only [List.map_nil, conditionsFor, Except.ok.injEq] at hpairs
      rw [← hpairs]
      exact .nil
  | cons facet rest ih =>
      obtain ⟨found, hfound, hpairs⟩ := bind_eq_ok.mp hpairs
      cases found with
      | none =>
          have htokens : c.tokens facet = none := mapM_eq_ok_none_iff.mp hfound
          simp only [List.filterMap_cons, htokens, Option.map_none]
          exact ih hpairs
      | some condition =>
          obtain ⟨tokens, htokens, hlist⟩ := mapM_eq_ok_some_iff.mp hfound
          obtain ⟨tail, htail, hpairs⟩ := bind_eq_ok.mp hpairs
          simp only [pure_eq_ok] at hpairs
          simp only [List.filterMap_cons, htokens, Option.map_some, ← hpairs]
          exact .cons ⟨rfl, hlist⟩ (ih htail)

theorem requested_isEmpty (hdetection : c.activeFacets.any Facet.isDetection = true) :
    c.requested.isEmpty = false := by
  obtain ⟨facet, hactive, hdetection⟩ := List.any_eq_true.mp hdetection
  have hlist : ∃ f ∈ detectionFacets, facet = .list f := by
    cases facet with
    | list f => cases f <;> first | exact ⟨_, by decide, rfl⟩ | cases hdetection
    | range _ | flag _ | geoLocation | any => cases hdetection
  obtain ⟨f, hf, rfl⟩ := hlist
  have htokens : (c.tokens f).isSome = true := (List.mem_filter.mp hactive).2
  obtain ⟨tokens, htokens⟩ := Option.isSome_iff_exists.mp htokens
  have hmem : (f, tokens) ∈ c.requested :=
    List.mem_filterMap.mpr ⟨f, hf, by rw [htokens, Option.map_some]⟩
  rw [List.isEmpty_eq_false_iff]
  exact List.ne_nil_of_mem hmem

/-- What the threshold keeps, told by the facets that have conditions. -/
theorem isKept_of_pairs (r : Record) (hfacets : pairs.map (·.1) = c.activeFacets) :
    r.isKept c = (c.minConfidence.isNone || !pairs.any (·.1.isDetection)
      || pairs.any (!·.1.isDetection)
      || c.requested.all fun asked => someMatch asked.2 (r.detected asked.1)) := by
  have hany : ∀ p : Facet → Bool, c.activeFacets.any p = pairs.any (p ·.1) := by
    intro p
    rw [← hfacets, List.any_map]
    rfl
  have hmatches : r.stillMatches c = (!c.requested.isEmpty &&
      c.requested.all fun asked => someMatch asked.2 (r.detected asked.1)) := rfl
  rw [Record.isKept, hmatches, hany, hany]
  cases hdetection : pairs.any (·.1.isDetection) with
  | false => simp
  | true => rw [requested_isEmpty (by rw [hany, hdetection]), Bool.not_false, Bool.true_and]

/-- A query that can be written has one condition for each active facet, in order; it is put
together from the queries of these facets alone, and it has no conditions of its own exactly when no
facet is active.  The threshold on confidences reads the same facets: whether a record may be
dropped depends on which facets have conditions, and the record is then matched against the tokens
of the conditions on detections. -/
theorem compile_by_facet {statement : Statement} (hcompile : compile c = .ok statement) :
    ∃ pairs parts all, conditionsOf c = .ok pairs ∧
      pairs.map (·.1) = c.activeFacets ∧
      statement.conditions = pairs.map (·.2) ∧
      List.Forall₂ (fun facet part => compile (c.alone facet) = .ok part) c.activeFacets parts ∧
      Composed [] parts statement.conditions statement.texts all ∧
      statement.params = (Bindings.of "p" all).params ∧
      (HasWhere statement.sql ↔ c.activeFacets ≠ []) ∧
      List.Forall₂ (fun asked pair => pair.1 = .list asked.1 ∧
        listCondition asked.1 asked.2 = .ok pair.2)
        c.requested (pairs.filter (·.1.isDetection)) ∧
      ∀ r : Record, r.isKept c = (c.minConfidence.isNone || !pairs.any (·.1.isDetection)
        || pairs.any (!·.1.isDetection)
        || c.requested.all fun asked => someMatch asked.2 (r.detected asked.1)) := by
  obtain ⟨pairs, hpairs, hconditions, htexts, hparams⟩ := compile_eq_ok hcompile
  have hfacets : pairs.map (·.1) = c.activeFacets := activeFacets_of_conditionsFor hpairs
  have hall : ∀ pair ∈ pairs, facetCondition c pair.1 = .ok (some pair.2) := fun pair hpair =>
    (((conditionsFor_eq_ok hpairs).2 pair.1 pair.2).mp hpair).2
  obtain ⟨parts, texts, all, hparts, hrun, hcomposed⟩ := composed_of_conditions hall []
  rw [Bindings.start_eq_of, hrun] at htexts hparams
  obtain rfl : texts = statement.texts := Except.ok.inj htexts
  have hwhere : HasWhere statement.sql ↔ c.activeFacets ≠ [] := by
    rw [Statement.sql, hasWhere_statementText, ← hfacets, ← List.length_pos_iff,
      ← List.length_pos_iff, hcomposed.length_eq, List.length_map, List.length_map]
  have hdetections : List.Forall₂ (fun asked pair => pair.1 = .list asked.1 ∧
      listCondition asked.1 asked.2 = .ok pair.2) c.requested (pairs.filter (·.1.isDetection)) :=
    requested_of_conditionsFor (conditionsFor_filter Facet.isDetection hpairs)
  refine ⟨pairs, parts, all, hpairs, hfacets, hconditions, ?_, hconditions ▸ hcomposed,
    hparams.symm, hwhere, hdetections, fun r => isKept_of_pairs r hfacets⟩
  rw [← hfacets, List.forall₂_map_left_iff]
  exact hparts

/-- Criteria that ask for an object, for a flag and for free text. -/
def mixedCriteria : Criteria where
  tokens
    | .objects => some ["dog*"]
    | _ => none
  any := some ["sea"]
  bounds := fun _ => none
  flags
    | .hasNudity => true
    | _ => false
  place := none
  minConfidence := none

theorem compile_by_facet_mixed :
    ∃ statement parts all, compile mixedCriteria = .ok statement ∧
      List.Forall₂ (fun facet part => compile (mixedCriteria.alone facet) = .ok part)
        [.list .objects, .flag .hasNudity, .any] parts ∧
      Composed [] parts statement.conditions statement.texts all ∧ HasWhere statement.sql := by
  have hactive : mixedCriteria.activeFacets = [.list .objects, .flag .hasNudity, .any] := by decide
  have hconditions : conditionsOf mixedCriteria = .ok [
      (.list .objects, childCondition .objects ["dog*"] false),
      (.flag .hasNudity, .flag "has_nudity" (.int 1)), (.any, freeTextCondition ["sea"])] := rfl
  obtain ⟨statement, hcompile⟩ := exists_compile hconditions
  obtain ⟨_, parts, all, -, -, -, hparts, hcomposed, -, hwhere, -⟩ := compile_by_facet hcompile
  rw [hactive] at hparts hwhere
  exact ⟨statement, parts, all, hcompile, hparts, hcomposed, hwhere.mpr (by decide)⟩

end Query

end PhotoCatalog
