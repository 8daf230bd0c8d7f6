import PhotoCatalog.Proofs.Query.Values
import PhotoCatalog.Proofs.Sql.Token

/-!
What writing binds and answers.  A way of writing is told by the values that it binds, wherever it
starts, and by a property of its result, which may speak of the number of values that are bound
before; ways of writing one after the other bind the values of both.
-/

namespace PhotoCatalog.Query

/-- Writing that starts behind `n` values binds these ones, and its result has the property. -/
def Binds {α : Type} (stem : String) (n : Nat) (values : List Value) (P : α → Prop)
    (x : StateM Bindings α) : Prop :=
  ∀ before : List Value, before.length = n →
    ∃ a, x (.of stem before) = (a, .of stem (before ++ values)) ∧ P a

/-- Writing that may fail, and that starts behind `n` values.  It binds these ones and its result
has the property, or it fails when it has bound some of the first of them. -/
def Writes {α : Type} (stem : String) (n : Nat) (values : List Value) (P : α → Prop)
    (x : Writing α) : Prop :=
  ∀ before : List Value, before.length = n →
    ∃ result bound, x.run (.of stem before) = (result, .of stem (before ++ bound)) ∧
      bound <+: values ∧ ∀ a, result = .ok a → bound = values ∧ P a

/-- Writing that does not fail, wherever it starts: it binds these values and its result has the
property. -/
def WritesFully {α : Type} (stem : String) (n : Nat) (values : List Value) (P : α → Prop)
    (x : Writing α) : Prop :=
  Binds stem n values (fun result => ∃ a, result = .ok a ∧ P a) x.run

/-- Names of parameters are made of word characters when their stem is. -/
theorem all_isWordChar_name {stem : String} (hstem : stem.toList.all Sql.isWordChar = true)
    (n : Nat) : (stem ++ toString n).toList.all Sql.isWordChar = true := by
  have hdigits : (toString n).toList.all Sql.isWordChar = true := by
    rw [Nat.toString_eq_repr, Nat.toList_repr, List.all_eq_true]
    intro c hc
    simp [Sql.isWordChar, Text.digitsOf_allDigits n c hc]
  rw [String.toList_append, List.all_append, hstem, hdigits]
  rfl

variable {α β : Type} {stem : String} {n : Nat} {values more : List Value} {P : α → Prop}
  {Q : β → Prop}

theorem run_bind (x : StateM Bindings α) (f : α → StateM Bindings β) (b : Bindings) :
    (x >>= f) b = f (x b).1 (x b).2 := rfl

theorem Binds.pure {a : α} (ha : P a) : Binds stem n [] P (pure a) := by
  intro before _
  refine ⟨a, ?_, ha⟩
  rw [List.append_nil]
  rfl

theorem Binds.bind {x : StateM Bindings α} {f : α → StateM Bindings β}
    (hx : Binds stem n values P x)
    (hf : ∀ a, P a → Binds stem (n + values.length) more Q (f a)) :
    Binds stem n (values ++ more) Q (x >>= f) := by
  intro before hbefore
  obtain ⟨a, hrun, ha⟩ := hx before hbefore
  obtain ⟨b, hnext, hb⟩ := hf a ha (before ++ values) (by rw [List.length_append, hbefore])
  refine ⟨b, ?_, hb⟩
  rw [run_bind, hrun, hnext, List.append_assoc]

/-- A result that is made of another one without binding anything. -/
theorem Binds.result {x : StateM Bindings α} {f : α → β} (hx : Binds stem n values P x)
    (hf : ∀ a, P a → Q (f a)) : Binds stem n values Q (x >>= fun a => Pure.pure (f a)) := by
  have hbind := hx.bind fun a ha => Binds.pure (hf a ha)
  rwa [List.append_nil] at hbind

theorem binds_bind (value : Value) :
    Binds stem n [value] (· = ":" ++ (stem ++ toString n)) (Query.bind value) := by
  rintro before rfl
  exact ⟨_, bind_of stem before value, rfl⟩

theorem Binds.lift {x : StateM Bindings α} (hx : Binds stem n values P x) :
    Writes stem n values P (liftM x : Writing α) := by
  intro before hbefore
  obtain ⟨a, hrun, ha⟩ := hx before hbefore
  refine ⟨.ok a, values, ?_, List.prefix_rfl, ?_⟩
  · change (Except.ok (x (.of stem before)).1, (x (.of stem before)).2) = _
    rw [hrun]
  · rintro _ ⟨⟩
    exact ⟨rfl, ha⟩

theorem Writes.pure {a : α} (ha : P a) : Writes stem n [] P (Pure.pure a : Writing α) :=
  (Binds.pure ha).lift

theorem writes_throw (fault : Fault) : Writes stem n [] P (throw fault : Writing α) := by
  intro before _
  refine ⟨.error fault, [], ?_, List.prefix_rfl, ?_⟩
  · rw [List.append_nil]
    rfl
  · rintro _ ⟨⟩

theorem Writes.bind {x : Writing α} {f : α → Writing β} (hx : Writes stem n values P x)
    (hf : ∀ a, P a → Writes stem (n + values.length) more Q (f a)) :
    Writes stem n (values ++ more) Q (x >>= f) := by
  intro before hbefore
  obtain ⟨result, bound, hrun, hprefix, hok⟩ := hx before hbefore
  have hafter : (x >>= f).run (.of stem before) =
      ExceptT.bindCont f (x.run (.of stem before)).1 (x.run (.of stem before)).2 := rfl
  rw [hrun] at hafter
  cases result with
  | error fault =>
      refine ⟨.error fault, bound, hafter, hprefix.trans (List.prefix_append _ _), ?_⟩
      rintro _ ⟨⟩
  | ok a =>
      obtain ⟨rfl, ha⟩ := hok a rfl
      obtain ⟨result, bound', hnext, hprefix', hok'⟩ :=
        hf a ha (before ++ bound) (by rw [List.length_append, hbefore])
      refine ⟨result, bound ++ bound', ?_, (List.prefix_append_right_inj bound).mpr hprefix', ?_⟩
      · rw [hafter, ← List.append_assoc]
        exact hnext
      · intro b hb
        obtain ⟨rfl, hQ⟩ := hok' b hb
        exact ⟨rfl, hQ⟩

/-- A result that is made of another one without binding anything. -/
theorem Writes.result {x : Writing α} {f : α → β} (hx : Writes stem n values P x)
    (hf : ∀ a, P a → Q (f a)) : Writes stem n values Q (x >>= fun a => Pure.pure (f a)) := by
  have hbind := hx.bind fun a ha => Writes.pure (hf a ha)
  rwa [List.append_nil] at hbind

theorem Binds.writesFully {x : StateM Bindings α} (hx : Binds stem n values P x) :
    WritesFully stem n values P (liftM x : Writing α) :=
  Binds.result (f := Except.ok) hx fun a ha => ⟨a, rfl, ha⟩

theorem WritesFully.pure {a : α} (ha : P a) : WritesFully stem n [] P (Pure.pure a : Writing α) :=
  (Binds.pure ha).writesFully

theorem WritesFully.bind {x : Writing α} {f : α → Writing β} (hx : WritesFully stem n values P x)
    (hf : ∀ a, P a → WritesFully stem (n + values.length) more Q (f a)) :
    WritesFully stem n (values ++ more) Q (x >>= f) := by
  refine Binds.bind (f := ExceptT.bindCont f) hx ?_
  rintro _ ⟨a, rfl, ha⟩
  exact hf a ha

theorem WritesFully.result {x : Writing α} {f : α → β} (hx : WritesFully stem n values P x)
    (hf : ∀ a, P a → Q (f a)) : WritesFully stem n values Q (x >>= fun a => Pure.pure (f a)) := by
  have hbind := hx.bind fun a ha => WritesFully.pure (hf a ha)
  rwa [List.append_nil] at hbind

/-- A value that is there without writing, unless it fails to be. -/
theorem writes_liftExcept {outcome : Except Fault α} (houtcome : ∀ a, outcome = .ok a → P a) :
    Writes stem n [] P (liftM outcome : Writing α) := by
  cases outcome with
  | error fault => exact writes_throw fault
  | ok a => exact .pure (houtcome a rfl)

end PhotoCatalog.Query
