import Mathlib.Logic.Function.Basic
import PhotoCatalog.Proofs.Outcome
import PhotoCatalog.Query.Statement

/-!
Facets and their conditions.  A query has one condition for each active facet, and that condition
depends on nothing but what the facet asks for: criteria can be narrowed to one facet, or asked
again with other tokens, and all other conditions stay what they were.
-/

namespace PhotoCatalog

/-- The criteria with one facet kept and all others left out. -/
def Criteria.only (c : Criteria) (facet : Facet) : Criteria where
  tokens f := if facet = .list f then c.tokens f else none
  any := if facet = .any then c.any else none
  bounds f := if facet = .range f then c.bounds f else none
  flags f := facet = .flag f && c.flags f
  place := if facet = .geoLocation then c.place else none
  minConfidence := c.minConfidence

/-- Whether a facet is asked for with tokens. -/
def Facet.takesTokens : Facet → Bool
  | .list _ | .any => true
  | _ => false

/-- The criteria that ask for other tokens in one facet, and for the same in all others. -/
def Criteria.asking (c : Criteria) (facet : Facet) (tokens : List String) : Criteria :=
  match facet with
  | .list f => { c with tokens := Function.update c.tokens f (some tokens) }
  | .any => { c with any := some tokens }
  | _ => c

theorem Facet.mem_all (facet : Facet) : facet ∈ Facet.all := by
  rcases facet with f | f | f | _ | _
  all_goals first | (cases f <;> decide) | decide

namespace Query

theorem conditionsFor_eq_ok {c : Criteria} {facets : List Facet}
    {pairs : List (Facet × Condition)} (hpairs : conditionsFor c facets = .ok pairs) :
    (∀ facet ∈ facets, ∃ found, facetCondition c facet = .ok found) ∧
      ∀ facet condition, (facet, condition) ∈ pairs ↔
        facet ∈ facets ∧ facetCondition c facet = .ok (some condition) := by
  induction facets generalizing pairs with
  | nil =>
      simp only [conditionsFor, Except.ok.injEq] at hpairs
      simp [← hpairs]
  | cons facet rest ih =>
      obtain ⟨found, hfound, hpairs⟩ := bind_eq_ok.mp hpairs
      cases found with
      | none =>
          obtain ⟨hall, hmem⟩ := ih hpairs
          refine ⟨List.forall_mem_cons.mpr ⟨⟨none, hfound⟩, hall⟩, fun other condition => ?_⟩
          rw [hmem, List.mem_cons]
          constructor
          · exact fun h => ⟨Or.inr h.1, h.2⟩
          · rintro ⟨rfl | hother, hcondition⟩
            · rw [hfound] at hcondition
              simp at hcondition
            · exact ⟨hother, hcondition⟩
      | some first =>
          obtain ⟨tail, htail, hpairs⟩ := bind_eq_ok.mp hpairs
          simp only [pure_eq_ok] at hpairs
          obtain ⟨hall, hmem⟩ := ih htail
          refine ⟨List.forall_mem_cons.mpr ⟨⟨some first, hfound⟩, hall⟩, fun other condition => ?_⟩
          rw [← hpairs, List.mem_cons, hmem, List.mem_cons, Prod.mk.injEq]
          constructor
          · rintro (⟨rfl, rfl⟩ | h)
            · exact ⟨Or.inl rfl, hfound⟩
            · exact ⟨Or.inr h.1, h.2⟩
          · rintro ⟨rfl | hother, hcondition⟩
            · rw [hfound] at hcondition
              simp only [Except.ok.injEq, Option.some.injEq] at hcondition
              exact Or.inl ⟨rfl, hcondition.symm⟩
            · exact Or.inr ⟨hother, hcondition⟩

/-- A query that can be written: the conditions of its facets, their texts, and the values bound on
the way. -/
theorem compile_eq_ok {c : Criteria} {statement : Statement}
    (hcompile : compile c = .ok statement) :
    ∃ pairs, conditionsOf c = .ok pairs ∧ statement.conditions = pairs.map (·.2) ∧
      ((renderAll imageName (pairs.map (·.2))).run (Bindings.start "p")).1 =
        .ok statement.texts ∧
      ((renderAll imageName (pairs.map (·.2))).run (Bindings.start "p")).2.params =
        statement.params := by
  obtain ⟨pairs, hpairs, hcompile⟩ := bind_eq_ok.mp hcompile
  obtain ⟨texts, htexts, hcompile⟩ := bind_eq_ok.mp hcompile
  simp only [pure_eq_ok] at hcompile
  subst hcompile
  exact ⟨pairs, hpairs, rfl, htexts, rfl⟩

/-- The conditions of a query are those of the facets. -/
theorem mem_conditions_iff {c : Criteria} {statement : Statement}
    (hcompile : compile c = .ok statement) {condition : Condition} :
    condition ∈ statement.conditions ↔
      ∃ facet, facetCondition c facet = .ok (some condition) := by
  obtain ⟨pairs, hpairs, hconditions, _⟩ := compile_eq_ok hcompile
  have hmem := (conditionsFor_eq_ok hpairs).2
  simp only [hconditions, List.mem_map, Prod.exists, hmem, exists_eq_right, Facet.mem_all, true_and]

/-- Where a query can be written, the condition of every facet can be. -/
theorem facetCondition_of_compile {c : Criteria} {statement : Statement}
    (hcompile : compile c = .ok statement) (facet : Facet) :
    ∃ found, facetCondition c facet = .ok found := by
  obtain ⟨pairs, hpairs, _⟩ := compile_eq_ok hcompile
  exact (conditionsFor_eq_ok hpairs).1 facet facet.mem_all

theorem mapM_eq_ok_none_iff {α β : Type} {f : α → Except Fault β} {asked : Option α} :
    asked.mapM f = .ok none ↔ asked = none := by
  cases asked with
  | none => simp
  | some a => simp [Functor.map, Except.map]; cases f a <;> simp

theorem mapM_eq_ok_some_iff {α β : Type} {f : α → Except Fault β} {asked : Option α} {b : β} :
    asked.mapM f = .ok (some b) ↔ ∃ a, asked = some a ∧ f a = .ok b := by
  cases asked with
  | none => simp
  | some a => simp [Functor.map, Except.map]; cases f a <;> simp

/-- A facet has a condition exactly when it constrains the result. -/
theorem facetCondition_eq_none_iff {c : Criteria} {facet : Facet} :
    facetCondition c facet = .ok none ↔ c.isActive facet = false := by
  cases facet with
  | list f => simp [facetCondition, Criteria.isActive, mapM_eq_ok_none_iff]
  | range f => simp [facetCondition, Criteria.isActive, mapM_eq_ok_none_iff]
  | flag f => simp [facetCondition, Criteria.isActive]
  | geoLocation => simp [facetCondition, Criteria.isActive, mapM_eq_ok_none_iff]
  | any => simp [facetCondition, Criteria.isActive]

theorem isSome_eq_isActive {c : Criteria} {facet : Facet} {found : Option Condition}
    (hfound : facetCondition c facet = .ok found) : found.isSome = c.isActive facet := by
  cases found with
  | none => exact (facetCondition_eq_none_iff.mp hfound).symm
  | some condition =>
      by_contra hinactive
      have hnone := facetCondition_eq_none_iff.mpr (Bool.eq_false_iff.mpr (Ne.symm hinactive))
      rw [hfound] at hnone
      simp at hnone

/-- Narrowed to one facet, criteria keep its condition and have no other. -/
theorem facetCondition_only (c : Criteria) (kept facet : Facet) :
    facetCondition (c.only kept) facet =
      if kept = facet then facetCondition c facet else .ok none := by
  by_cases hkept : kept = facet
  · subst hkept
    cases kept <;> simp [facetCondition, Criteria.only]
  · rw [if_neg hkept]
    cases facet <;> simp [facetCondition, Criteria.only, hkept]

/-- Asked again with other tokens in one facet, all other facets keep their conditions. -/
theorem facetCondition_asking_of_ne {c : Criteria} {asked facet : Facet} (tokens : List String)
    (hne : facet ≠ asked) :
    facetCondition (c.asking asked tokens) facet = facetCondition c facet := by
  cases asked with
  | list f =>
      cases facet with
      | list g =>
          have hother : g ≠ f := fun heq => hne (heq ▸ rfl)
          simp [facetCondition, Criteria.asking, hother]
      | range _ | flag _ | geoLocation | any => rfl
  | any =>
      cases facet with
      | any => exact absurd rfl hne
      | list _ | range _ | flag _ | geoLocation => rfl
  | range _ | flag _ | geoLocation => rfl

end Query

end PhotoCatalog
