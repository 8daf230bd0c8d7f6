import PhotoCatalog.Proofs.Outcome
import PhotoCatalog.Proofs.Query.Spelled

/-!
Conditions written in another place.  A condition of a query is written with the placeholders that
come next, so its text depends on how much has been bound before it; but it depends on that in the
numbers of its placeholders alone, and the values bound for it do not depend on it at all.
-/

namespace PhotoCatalog.Query

open PhotoCatalog PhotoCatalog.Sql

def placeholder (stem : String) (n : Nat) : String := ":" ++ (stem ++ toString n)

/-- Two texts that are the same but for the numbers of their placeholders, which are counted from
`m` in the first one and from `n` in the second one.  What stands between placeholders holds no
colon, so that it hides none. -/
inductive Renumbered (stem : String) (m n : Nat) : String → String → Prop where
  | plain {text : String} (hplain : ':' ∉ text.toList) : Renumbered stem m n text text
  | placeholder (i : Nat) :
      Renumbered stem m n (placeholder stem (m + i)) (placeholder stem (n + i))
  | append {s s' t t' : String} (hfirst : Renumbered stem m n s s')
      (hrest : Renumbered stem m n t t') : Renumbered stem m n (s ++ t) (s' ++ t')

section Texts

variable {stem : String} {m n : Nat}

theorem plain_of_isName {name : String} (hname : isName name = true) : ':' ∉ name.toList := by
  intro hmem
  obtain ⟨hword, -⟩ := Bool.and_eq_true_iff.mp hname
  obtain ⟨-, hall⟩ := Bool.and_eq_true_iff.mp hword
  exact absurd (List.all_eq_true.mp hall ':' hmem) (by decide)

theorem plain_toString (n : Nat) : ':' ∉ (toString n).toList := by
  intro hmem
  obtain ⟨-, hall⟩ := Bool.and_eq_true_iff.mp (isNumeral_toString n)
  exact absurd (List.all_eq_true.mp hall ':' hmem) (by decide)

theorem plain_toString_int (n : Int) : ':' ∉ (toString n).toList := by
  cases n with
  | ofNat n => exact plain_toString n
  | negSucc n =>
      change ':' ∉ ("-" ++ toString (n + 1)).toList
      simpa using plain_toString (n + 1)

/-- A column with the name of its table before it. -/
theorem renumbered_column {name column : String} (hname : isName name = true)
    (hcolumn : isName column = true) :
    Renumbered stem m n (name ++ "." ++ column) (name ++ "." ++ column) :=
  .append (.append (.plain (plain_of_isName hname)) (.plain (by decide)))
    (.plain (plain_of_isName hcolumn))

theorem Renumbered.intercalate (piece : String) (hpiece : ':' ∉ piece.toList)
    {texts texts' : List String} (hall : List.Forall₂ (Renumbered stem m n) texts texts') :
    Renumbered stem m n (piece.intercalate texts) (piece.intercalate texts') := by
  induction hall with
  | nil => exact .plain (by simp)
  | cons hfirst hrest ih =>
      cases hrest with
      | nil => simpa using hfirst
      | cons =>
          rw [String.intercalate_cons_cons, String.intercalate_cons_cons]
          exact (hfirst.append (.plain hpiece)).append ih

end Texts

/-- Two ways of writing that bind the same values and give results in a relation, when the first one
starts as far behind `m` values as the second one behind `n`. -/
def Moved {α β : Type} (stem : String) (m n : Nat) (R : α → β → Prop) (x : StateM Bindings α)
    (y : StateM Bindings β) : Prop :=
  ∀ i values values', values.length = m + i → values'.length = n + i →
    ∃ a b bound, x (.of stem values) = (a, .of stem (values ++ bound)) ∧
      y (.of stem values') = (b, .of stem (values' ++ bound)) ∧ R a b

section Moved

variable {stem : String} {m n : Nat} {α β γ δ : Type} {R : α → β → Prop} {S : γ → δ → Prop}

theorem Moved.pure {a : α} {b : β} (hresults : R a b) : Moved stem m n R (pure a) (pure b) := by
  intro i values values' _ _
  refine ⟨a, b, [], ?_, ?_, hresults⟩ <;> rw [List.append_nil] <;> rfl

theorem Moved.bind {x : StateM Bindings α} {y : StateM Bindings β} {f : α → StateM Bindings γ}
    {g : β → StateM Bindings δ} (hfirst : Moved stem m n R x y)
    (hnext : ∀ a b, R a b → Moved stem m n S (f a) (g b)) :
    Moved stem m n S (x >>= f) (y >>= g) := by
  intro i values values' hvalues hvalues'
  obtain ⟨a, b, bound, hx, hy, hresults⟩ := hfirst i values values' hvalues hvalues'
  obtain ⟨c, d, more, hf, hg, hresults⟩ := hnext a b hresults (i + bound.length)
    (values ++ bound) (values' ++ bound) (by rw [List.length_append]; omega)
    (by rw [List.length_append]; omega)
  refine ⟨c, d, bound ++ more, ?_, ?_, hresults⟩
  · rw [run_bind, hx, hf, List.append_assoc]
  · rw [run_bind, hy, hg, List.append_assoc]

theorem moved_bind (value : Value) :
    Moved stem m n (Renumbered stem m n) (Query.bind value) (Query.bind value) := by
  intro i values values' hvalues hvalues'
  refine ⟨_, _, [value], bind_of stem values value, bind_of stem values' value, ?_⟩
  rw [hvalues, hvalues']
  exact .placeholder i

/-- Writing that may fail: it fails with the same fault in both places. -/
theorem Moved.andThen {x : Writing α} {y : Writing β} {f : α → Writing γ} {g : β → Writing δ}
    (hfirst : Moved stem m n (SameOutcome R) x.run y.run)
    (hnext : ∀ a b, R a b → Moved stem m n (SameOutcome S) (f a).run (g b).run) :
    Moved stem m n (SameOutcome S) (x >>= f).run (y >>= g).run := by
  rw [ExceptT.run_bind, ExceptT.run_bind]
  refine hfirst.bind fun result result' hresults => ?_
  cases hresults with
  | error fault => exact .pure (.error fault)
  | ok hresults => exact hnext _ _ hresults

theorem Moved.lift {x : StateM Bindings α} {y : StateM Bindings β} (hmoved : Moved stem m n R x y) :
    Moved stem m n (SameOutcome R) (liftM x : Writing α).run (liftM y : Writing β).run :=
  hmoved.bind fun _ _ hresults => .pure (.ok hresults)

end Moved

section Conditions

variable {stem name column : String} {m n : Nat}

theorem renderRange_moved (hcolumn : Renumbered stem m n column column) (low : Value)
    (high : Option Value) (upperExclusive : Bool) :
    Moved stem m n (Renumbered stem m n) (renderRange column low high upperExclusive)
      (renderRange column low high upperExclusive) := by
  cases high with
  | none =>
      refine (moved_bind low).bind fun first first' hfirst => .pure ?_
      repeat' first | with_reducible assumption | with_reducible refine .append ?_ ?_ |
        exact .plain (by decide)
  | some high =>
      refine (moved_bind low).bind fun first first' hfirst =>
        (moved_bind high).bind fun second second' hsecond => ?_
      cases upperExclusive
      all_goals
        refine .pure ?_
        repeat' first | with_reducible assumption | with_reducible refine .append ?_ ?_ |
          exact .plain (by decide)

theorem renderBetween_moved (hcolumn : Renumbered stem m n column column) (box : Float × Float) :
    Moved stem m n (Renumbered stem m n) (renderBetween column box) (renderBetween column box) := by
  refine (moved_bind _).bind fun low low' hlow => (moved_bind _).bind fun high high' hhigh =>
    .pure ?_
  repeat' first | with_reducible assumption | with_reducible refine .append ?_ ?_ |
    exact .plain (by decide)

theorem renderBoxes_moved (hcolumn : Renumbered stem m n column column)
    (boxes : List (Float × Float)) :
    Moved stem m n (List.Forall₂ (Renumbered stem m n)) (renderBoxes column boxes)
      (renderBoxes column boxes) := by
  induction boxes with
  | nil => exact .pure .nil
  | cons box rest ih =>
      exact (renderBetween_moved hcolumn box).bind fun first first' hfirst =>
        ih.bind fun tests tests' htests => .pure (.cons hfirst htests)

theorem renumbered_longitudeTest {tests tests' : List String}
    (htests : List.Forall₂ (Renumbered stem m n) tests tests') :
    List.Forall₂ (Renumbered stem m n) (longitudeTest tests) (longitudeTest tests') := by
  match htests with
  | .nil => exact .nil
  | .cons hfirst .nil => exact .cons hfirst .nil
  | .cons hfirst (.cons hsecond hrest) =>
      have hall := Renumbered.intercalate " OR " (by decide)
        (.cons hfirst (.cons hsecond hrest))
      refine .cons ?_ .nil
      exact (Renumbered.append (.plain (by decide)) hall).append (.plain (by decide))

theorem renderRegion_moved {region : Geo.Region}
    (hlat : Renumbered stem m n (name ++ "." ++ region.latColumn) (name ++ "." ++ region.latColumn))
    (hlon : Renumbered stem m n (name ++ "." ++ region.lonColumn)
      (name ++ "." ++ region.lonColumn)) :
    Moved stem m n (Renumbered stem m n) (renderRegion name region) (renderRegion name region) := by
  unfold renderRegion
  refine (renderBetween_moved hlat _).bind fun latTest latTest' hlatTest => ?_
  refine (renderBoxes_moved hlon _).bind fun lonTests lonTests' hlonTests => ?_
  refine (moved_bind _).bind fun originLat originLat' horiginLat => ?_
  refine (moved_bind _).bind fun originLon originLon' horiginLon => ?_
  refine (moved_bind _).bind fun maxKm maxKm' hmaxKm => .pure ?_
  have hlonTest := renumbered_longitudeTest hlonTests
  refine (Renumbered.append (.plain (by decide)) ?_).append (.plain (by decide))
  refine Renumbered.intercalate _ (by decide) ?_
  refine List.rel_append (List.rel_append ?_ hlonTest) ?_
  · have hplain : ':' ∉ " IS NOT NULL".toList := by decide
    exact .cons (hlat.append (.plain hplain)) (.cons (hlon.append (.plain hplain))
      (.cons hlatTest .nil))
  · refine .cons ?_ .nil
    repeat' first | with_reducible assumption | with_reducible refine .append ?_ ?_ |
      exact .plain (by decide)

mutual

/-- The text of a tree is the same in every place but for the numbers of its placeholders, and so
are the values bound for it. -/
theorem render_moved (name : String) (hname : isName name = true) :
    (condition : Condition) → condition.IsTree →
    Moved stem m n (SameOutcome (Renumbered stem m n)) (condition.render name).run
      (condition.render name).run
  | .exact column value noCase, htree => by
      rw [Condition.IsTree] at htree
      rw [Condition.render]
      refine (moved_bind value).lift.andThen fun first first' hfirst => .pure (.ok ?_)
      have hcolumn : Renumbered stem m n (name ++ "." ++ column) (name ++ "." ++ column) :=
        renumbered_column hname htree
      cases noCase
      all_goals
        repeat' first | with_reducible assumption | with_reducible refine .append ?_ ?_ |
          exact .plain (by decide)
  | .like column pattern _, htree => by
      rw [Condition.IsTree] at htree
      rw [Condition.render]
      refine (moved_bind _).lift.andThen fun first first' hfirst => .pure (.ok ?_)
      have hcolumn : Renumbered stem m n (name ++ "." ++ column) (name ++ "." ++ column) :=
        renumbered_column hname htree
      repeat' first | with_reducible assumption | with_reducible refine .append ?_ ?_ |
        exact .plain (by decide)
  | .range column low high upperExclusive, htree => by
      rw [Condition.IsTree] at htree
      rw [Condition.render]
      exact (renderRange_moved (renumbered_column hname htree) low high upperExclusive).lift
  | .flag column value, htree => by
      rw [Condition.IsTree] at htree
      obtain ⟨hcolumn, k, hvalue⟩ := htree
      rw [Condition.render, hvalue]
      refine Moved.pure (.ok ?_)
      exact ((renumbered_column hname hcolumn).append (.plain (by decide))).append
        (.plain (plain_toString_int k))
  | .anyOf items, htree => by
      rw [Condition.IsTree] at htree
      rw [Condition.render]
      refine (renderAll_moved name hname items htree).andThen fun texts texts' htexts =>
        .pure (.ok ?_)
      cases htexts with
      | nil => exact .plain (by decide)
      | cons hfirst hrest =>
          have hall := Renumbered.intercalate " OR " (by decide) (.cons hfirst hrest)
          exact (Renumbered.append (.plain (by decide)) hall).append (.plain (by decide))
  | .allOf items, htree => by
      rw [Condition.IsTree] at htree
      rw [Condition.render]
      refine (renderAll_moved name hname items htree).andThen fun texts texts' htexts =>
        .pure (.ok ?_)
      cases htexts with
      | nil => exact .plain (by decide)
      | cons hfirst hrest =>
          have hall := Renumbered.intercalate " AND " (by decide) (.cons hfirst hrest)
          exact (Renumbered.append (.plain (by decide)) hall).append (.plain (by decide))
  | .existsIn table condition, htree => by
      rw [Condition.IsTree] at htree
      rw [Condition.render]
      refine (render_moved table.shortName (isName_shortName table) condition htree).andThen
        fun inner inner' hinner => .pure (.ok ?_)
      have htable : Renumbered stem m n table.name table.name :=
        .plain (plain_of_isName (isName_tableName table))
      have hshort : Renumbered stem m n table.shortName table.shortName :=
        .plain (plain_of_isName (isName_shortName table))
      have howner : Renumbered stem m n name name := .plain (plain_of_isName hname)
      repeat' first | with_reducible assumption | with_reducible refine .append ?_ ?_ |
        exact .plain (by decide)
  | .within region, htree => by
      rw [Condition.IsTree] at htree
      rw [Condition.render]
      exact (renderRegion_moved (renumbered_column hname htree.1)
        (renumbered_column hname htree.2)).lift
  | .unknown, htree => by
      rw [Condition.IsTree] at htree
      exact htree.elim

theorem renderAll_moved (name : String) (hname : isName name = true) :
    (conditions : List Condition) → AreTrees conditions →
    Moved stem m n (SameOutcome (List.Forall₂ (Renumbered stem m n)))
      (renderAll name conditions).run (renderAll name conditions).run
  | [], _ => .pure (.ok .nil)
  | condition :: rest, htrees => by
      rw [AreTrees] at htrees
      rw [renderAll]
      exact (render_moved name hname condition htrees.1).andThen fun first first' hfirst =>
        (renderAll_moved name hname rest htrees.2).andThen fun texts texts' htexts =>
          .pure (.ok (.cons hfirst htexts))

end

end Conditions

end PhotoCatalog.Query
