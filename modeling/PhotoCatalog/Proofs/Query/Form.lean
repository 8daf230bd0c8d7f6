import PhotoCatalog.Query.Render

/-!
The form of a condition is what is left of it without the values that it compares with.  The text of
a condition depends on its form alone, and so do the names of the parameters that are bound for it.
-/

namespace PhotoCatalog.Query

/-- Bindings that differ in the values only. -/
structure Bindings.SameNames (a b : Bindings) : Prop where
  stem : a.stem = b.stem
  names : a.params.map (·.1) = b.params.map (·.1)

/-- Two ways of writing that give the same and bind parameters of the same names, whatever values
have been bound before. -/
def Alike {α : Type} (x y : StateM Bindings α) : Prop :=
  ∀ a b : Bindings, a.SameNames b → (x a).1 = (y b).1 ∧ (x a).2.SameNames (y b).2

variable {α β : Type}

theorem Alike.pure (a : α) : Alike (pure a) (pure a) := fun _ _ hsame => ⟨rfl, hsame⟩

theorem Alike.bind {x y : StateM Bindings α} {f g : α → StateM Bindings β} (hfirst : Alike x y)
    (hnext : ∀ a, Alike (f a) (g a)) : Alike (x >>= f) (y >>= g) := by
  intro a b hsame
  obtain ⟨hvalue, hbindings⟩ := hfirst a b hsame
  change (f (x a).1 (x a).2).1 = (g (y b).1 (y b).2).1 ∧
    (f (x a).1 (x a).2).2.SameNames (g (y b).1 (y b).2).2
  rw [← hvalue]
  exact hnext (x a).1 _ _ hbindings

theorem Alike.symm {x y : StateM Bindings α} (halike : Alike x y) : Alike y x := by
  intro a b hsame
  obtain ⟨hvalue, hbindings⟩ := halike b a ⟨hsame.stem.symm, hsame.names.symm⟩
  exact ⟨hvalue.symm, hbindings.stem.symm, hbindings.names.symm⟩

theorem Alike.trans {x y z : StateM Bindings α} (hfirst : Alike x y) (hnext : Alike y z) :
    Alike x z := by
  intro a b hsame
  obtain ⟨hvalue, hbindings⟩ := hfirst a b hsame
  obtain ⟨hvalue', hbindings'⟩ := hnext b b ⟨rfl, rfl⟩
  exact ⟨hvalue.trans hvalue', hbindings.stem.trans hbindings'.stem,
    hbindings.names.trans hbindings'.names⟩

/-- The name of the next parameter does not depend on values. -/
theorem Bindings.SameNames.nextName_eq {a b : Bindings} (hsame : a.SameNames b) :
    a.nextName = b.nextName := by
  have hlength := congrArg List.length hsame.names
  simp only [List.length_map] at hlength
  rw [Bindings.nextName, Bindings.nextName, hsame.stem, hlength]

/-- All values are bound in the same way. -/
theorem alike_bind (value other : Value) : Alike (bind value) (bind other) := by
  intro a b hsame
  have hname := hsame.nextName_eq
  refine ⟨by simp [Query.bind, hname], hsame.stem, ?_⟩
  simp [Query.bind, Bindings.push, hsame.names, hname]

theorem renderRange_alike (column : String) (low low' : Value) {high high' : Option Value}
    (upperExclusive : Bool) (hsome : high.isSome = high'.isSome) :
    Alike (renderRange column low high upperExclusive)
      (renderRange column low' high' upperExclusive) := by
  cases high with
  | none =>
      cases high' with
      | some high' => simp at hsome
      | none => exact (alike_bind low low').bind fun value => .pure _
  | some high =>
      cases high' with
      | none => simp at hsome
      | some high' =>
          refine (alike_bind low low').bind fun first =>
            (alike_bind high high').bind fun second => ?_
          cases upperExclusive <;> exact .pure _

theorem renderBetween_alike (column : String) (box box' : Float × Float) :
    Alike (renderBetween column box) (renderBetween column box') :=
  (alike_bind _ _).bind fun _ => (alike_bind _ _).bind fun _ => .pure _

theorem renderBoxes_alike (column : String) {boxes boxes' : List (Float × Float)}
    (hlength : boxes.length = boxes'.length) :
    Alike (renderBoxes column boxes) (renderBoxes column boxes') := by
  induction boxes generalizing boxes' with
  | nil =>
      obtain rfl := List.length_eq_zero_iff.mp hlength.symm
      exact .pure []
  | cons box rest ih =>
      cases boxes' with
      | nil => simp at hlength
      | cons box' rest' =>
          simp only [List.length_cons, Nat.add_right_cancel_iff] at hlength
          exact (renderBetween_alike column box box').bind fun first =>
            (ih hlength).bind fun tests => .pure _

/-- Of a region the text holds its columns and the number of its boxes. -/
theorem renderRegion_alike (name : String) {region region' : Geo.Region}
    (hlat : region.latColumn = region'.latColumn) (hlon : region.lonColumn = region'.lonColumn)
    (hboxes : region.lonBoxes.length = region'.lonBoxes.length) :
    Alike (renderRegion name region) (renderRegion name region') := by
  unfold renderRegion
  rw [hlat, hlon]
  refine (renderBetween_alike _ _ _).bind fun latTest => ?_
  refine (renderBoxes_alike _ hboxes).bind fun lonTests => ?_
  refine (alike_bind _ _).bind fun originLat => ?_
  refine (alike_bind _ _).bind fun originLon => ?_
  exact (alike_bind _ _).bind fun maxKm => .pure _

/-- Writing that may fail: failures are alike as well. -/
theorem Alike.andThen {x y : Writing α} {f g : α → Writing β} (hfirst : Alike x.run y.run)
    (hnext : ∀ a, Alike (f a).run (g a).run) : Alike (x >>= f).run (y >>= g).run := by
  rw [ExceptT.run_bind, ExceptT.run_bind]
  refine hfirst.bind fun result => ?_
  cases result with
  | error fault => exact .pure _
  | ok a => exact hnext a

theorem Alike.lift {x y : StateM Bindings α} (halike : Alike x y) :
    Alike (liftM x : Writing α).run (liftM y : Writing α).run :=
  halike.bind fun _ => .pure _

mutual

/-- The form of a condition: columns, the kinds of comparisons and how they are put together.  The
number that a flag is compared with belongs to it, for it is no value of a user. -/
def Condition.form : Condition → Condition
  | .exact column _ noCase => .exact column .null noCase
  | .like column _ _ => .like column "" true
  | .range column _ high upperExclusive =>
    .range column .null (high.map fun _ => .null) upperExclusive
  | .flag column value => .flag column value
  | .anyOf items => .anyOf (formsOf items)
  | .allOf items => .allOf (formsOf items)
  | .existsIn table condition => .existsIn table condition.form
  | .within region =>
    .within ⟨region.latColumn, region.lonColumn, .null, .null, 0.0, (0.0, 0.0),
      region.lonBoxes.map fun _ => (0.0, 0.0)⟩
  | .unknown => .unknown

/-- The forms of several conditions. -/
def formsOf : List Condition → List Condition
  | [] => []
  | condition :: rest => condition.form :: formsOf rest

end

theorem formsOf_eq_map (conditions : List Condition) :
    formsOf conditions = conditions.map Condition.form := by
  induction conditions with
  | nil => rfl
  | cons condition rest ih => rw [formsOf, ih, List.map_cons]

mutual

/-- The text of a condition is the text of its form. -/
theorem render_form (name : String) : (condition : Condition) →
    Alike (condition.render name).run (condition.form.render name).run
  | .exact column value noCase => by
      rw [Condition.form, Condition.render, Condition.render]
      exact (alike_bind _ _).lift.andThen fun _ => .pure _
  | .like column pattern prefixOptimizable => by
      rw [Condition.form, Condition.render, Condition.render]
      exact (alike_bind _ _).lift.andThen fun _ => .pure _
  | .range column low high upperExclusive => by
      rw [Condition.form, Condition.render, Condition.render]
      exact (renderRange_alike _ _ _ upperExclusive (by simp)).lift
  | .flag column value => by
      rw [Condition.form, Condition.render]
      cases value.toInt <;> exact .pure _
  | .anyOf items => by
      rw [Condition.form, Condition.render, Condition.render]
      exact (renderAll_form name items).andThen fun _ => .pure _
  | .allOf items => by
      rw [Condition.form, Condition.render, Condition.render]
      exact (renderAll_form name items).andThen fun _ => .pure _
  | .existsIn table condition => by
      rw [Condition.form, Condition.render, Condition.render]
      exact (render_form table.shortName condition).andThen fun _ => .pure _
  | .within region => by
      rw [Condition.form, Condition.render, Condition.render]
      refine Alike.lift (renderRegion_alike name rfl rfl ?_)
      rw [List.length_map]
  | .unknown => by
      rw [Condition.form, Condition.render]
      exact .pure _

/-- The texts of several conditions are the texts of their forms. -/
theorem renderAll_form (name : String) : (conditions : List Condition) →
    Alike (renderAll name conditions).run (renderAll name (formsOf conditions)).run
  | [] => .pure _
  | condition :: rest => by
      rw [formsOf, renderAll, renderAll]
      exact (render_form name condition).andThen fun first =>
        (renderAll_form name rest).andThen fun texts => .pure _

end

end PhotoCatalog.Query
