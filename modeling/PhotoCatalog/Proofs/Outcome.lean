import Mathlib.Data.List.Forall2
import Mathlib.Logic.Basic
import PhotoCatalog.Reading

/-!
Steps that may end with a fault.  A chain of steps has a result exactly when each of its steps has
one, so a proof about the result takes the chain apart link by link.
-/

namespace PhotoCatalog

variable {α β ε : Type}

theorem ok_bind (a : α) (f : α → Except ε β) : (Except.ok a >>= f) = f a := rfl

theorem bind_eq_ok {x : Except ε α} {f : α → Except ε β} {b : β} :
    x >>= f = .ok b ↔ ∃ a, x = .ok a ∧ f a = .ok b := by
  cases x <;> simp [bind, Except.bind]

theorem map_eq_ok {x : Except ε α} {f : α → β} {b : β} :
    x.map f = .ok b ↔ ∃ a, x = .ok a ∧ f a = b := by
  cases x <;> simp [Except.map]

@[simp] theorem pure_eq_ok {a b : α} : (pure a : Except ε α) = .ok b ↔ a = b := by
  simp [pure, Except.pure]

/-- A list of steps has a result exactly when every step has one. -/
theorem mapM_eq_ok {f : α → Except ε β} {items : List α} {results : List β} :
    items.mapM f = .ok results ↔ items.map f = results.map .ok := by
  induction items generalizing results with
  | nil => cases results <;> simp [pure, Except.pure]
  | cons item rest ih =>
      simp only [List.mapM_cons, bind_eq_ok, ih, pure_eq_ok]
      constructor
      · rintro ⟨b, hb, bs, hbs, rfl⟩
        simp [hb, hbs]
      · intro hall
        cases results with
        | nil => simp at hall
        | cons b bs =>
            simp only [List.map_cons, List.cons.injEq] at hall
            exact ⟨b, hall.1, bs, hall.2, rfl⟩

/-- Where a list of steps has a result, each step has one. -/
theorem exists_ok_of_mapM {f : α → Except ε β} {items : List α} {results : List β} {item : α}
    (hresults : items.mapM f = .ok results) (hitem : item ∈ items) : ∃ b, f item = .ok b := by
  have hmem := List.mem_map_of_mem (f := f) hitem
  rw [mapM_eq_ok.mp hresults] at hmem
  obtain ⟨b, -, hb⟩ := List.mem_map.mp hmem
  exact ⟨b, hb.symm⟩

/-- What a list of steps results in is made of the results of its steps. -/
theorem exists_of_mem_mapM {f : α → Except ε β} {items : List α} {results : List β} {b : β}
    (hresults : items.mapM f = .ok results) (hb : b ∈ results) :
    ∃ item ∈ items, f item = .ok b := by
  have hmem := List.mem_map_of_mem (f := Except.ok (ε := ε)) hb
  rw [← mapM_eq_ok.mp hresults] at hmem
  exact List.mem_map.mp hmem

/-- Where every step has a result of some kind, a list of steps has results of this kind. -/
theorem exists_mapM_ok {f : α → Except ε β} {R : β → α → Prop} {items : List α}
    (hall : ∀ item ∈ items, ∃ b, f item = .ok b ∧ R b item) :
    ∃ results, items.mapM f = .ok results ∧ List.Forall₂ R results items := by
  induction items with
  | nil => exact ⟨[], rfl, .nil⟩
  | cons item items ih =>
      obtain ⟨⟨b, hb, hkind⟩, hrest⟩ := List.forall_mem_cons.mp hall
      obtain ⟨results, hresults, hkinds⟩ := ih hrest
      refine ⟨b :: results, ?_, .cons hkind hkinds⟩
      rw [List.mapM_cons, hb, hresults]
      rfl

/-- Steps that end with the same fault, or with results that stand in a relation. -/
inductive SameOutcome {γ : Type} (R : α → γ → Prop) : Except ε α → Except ε γ → Prop where
  | ok {a : α} {c : γ} (hresults : R a c) : SameOutcome R (.ok a) (.ok c)
  | error (fault : ε) : SameOutcome R (.error fault) (.error fault)

theorem SameOutcome.refl {R : α → α → Prop} (hrefl : ∀ a, R a a) (x : Except ε α) :
    SameOutcome R x x := by
  cases x with
  | ok a => exact .ok (hrefl a)
  | error fault => exact .error fault

/-- Whatever goes on alike from results in the relation ends alike. -/
theorem SameOutcome.bind {γ : Type} {R : α → γ → Prop} {x : Except ε α} {y : Except ε γ}
    {f : α → Except ε β} {g : γ → Except ε β} (hfirst : SameOutcome R x y)
    (hrest : ∀ a c, R a c → f a = g c) : x >>= f = y >>= g := by
  cases hfirst with
  | ok hresults => exact hrest _ _ hresults
  | error fault => rfl

/-- Whether a step can fail in certain ways only. -/
def FailsOnly (P : ε → Prop) (x : Except ε α) : Prop := ∀ fault, x = .error fault → P fault

section

variable {P : ε → Prop} {x : Except ε α}

theorem failsOnly_ok (a : α) : FailsOnly P (.ok a : Except ε α) := nofun

theorem failsOnly_error {fault : ε} : FailsOnly P (.error fault : Except ε α) ↔ P fault := by
  simp [FailsOnly]

theorem FailsOnly.bind {f : α → Except ε β} (hx : FailsOnly P x)
    (hf : ∀ a, x = .ok a → FailsOnly P (f a)) : FailsOnly P (x >>= f) := by
  cases x with
  | ok a => exact hf a rfl
  | error fault => exact failsOnly_error.mpr (hx fault rfl)

theorem FailsOnly.map {f : α → β} (hx : FailsOnly P x) : FailsOnly P (x.map f) := by
  cases x with
  | ok a => exact failsOnly_ok (f a)
  | error fault => exact failsOnly_error.mpr (hx fault rfl)

/-- A list of steps fails like one of the steps. -/
theorem failsOnly_mapM {f : α → Except ε β} {items : List α}
    (hall : ∀ item ∈ items, FailsOnly P (f item)) : FailsOnly P (items.mapM f) := by
  induction items with
  | nil => exact failsOnly_ok []
  | cons item items ih =>
      obtain ⟨hfirst, hrest⟩ := List.forall_mem_cons.mp hall
      rw [List.mapM_cons]
      exact hfirst.bind fun b _ => (ih hrest).bind fun bs _ => failsOnly_ok (b :: bs)

/-- A loop of steps fails like one of the steps. -/
theorem failsOnly_forM {f : α → Except ε PUnit} {items : List α}
    (hall : ∀ item ∈ items, FailsOnly P (f item)) : FailsOnly P (items.forM f) := by
  induction items with
  | nil => exact failsOnly_ok _
  | cons item items ih =>
      obtain ⟨hfirst, hrest⟩ := List.forall_mem_cons.mp hall
      exact hfirst.bind fun _ _ => ih hrest

/-- Steps that cannot fail at all have a result. -/
theorem FailsOnly.exists_ok (hx : FailsOnly (fun _ => False) x) : ∃ a, x = .ok a := by
  cases x with
  | ok a => exact ⟨a, rfl⟩
  | error fault => exact (hx fault rfl).elim

end

namespace Reading

@[simp] theorem result_pure (a : α) : (pure a : Reading α).result = .ok a := rfl

@[simp] theorem result_fail (fault : Fault) : (fail fault : Reading α).result = .error fault := rfl

/-- The result of a chain of readings is the chain of their results. -/
theorem result_bind (x : Reading α) (f : α → Reading β) :
    (x >>= f).result = x.result >>= fun a => (f a).result := by
  change (x.andThen f).result = _
  rw [andThen]
  cases x.result <;> rfl

theorem result_bind_of_same {γ : Type} {R : α → γ → Prop} {x : Reading α} {y : Reading γ}
    {f : α → Reading β} {g : γ → Reading β} (hfirst : SameOutcome R x.result y.result)
    (hrest : ∀ a c, R a c → (f a).result = (g c).result) :
    (x >>= f).result = (y >>= g).result := by
  rw [result_bind, result_bind]
  exact hfirst.bind hrest

theorem result_bind_congr {x y : Reading α} {f g : α → Reading β} (hfirst : x.result = y.result)
    (hrest : ∀ a, (f a).result = (g a).result) : (x >>= f).result = (y >>= g).result := by
  rw [result_bind, result_bind, hfirst]
  exact congrArg _ (funext hrest)

theorem forM_result_congr {items : List α} {f g : α → Reading PUnit}
    (hall : ∀ item ∈ items, (f item).result = (g item).result) :
    (items.forM f).result = (items.forM g).result := by
  induction items with
  | nil => rfl
  | cons item items ih =>
      obtain ⟨hfirst, hrest⟩ := List.forall_mem_cons.mp hall
      exact result_bind_congr hfirst fun _ => ih hrest

theorem bind_result_eq_ok {x : Reading α} {f : α → Reading β} {b : β} :
    (x >>= f).result = .ok b ↔ ∃ a, x.result = .ok a ∧ (f a).result = .ok b := by
  rw [result_bind, bind_eq_ok]

theorem failsOnly_bind {P : Fault → Prop} {x : Reading α} {f : α → Reading β}
    (hx : FailsOnly P x.result) (hf : ∀ a, x.result = .ok a → FailsOnly P (f a).result) :
    FailsOnly P (x >>= f).result := by
  rw [result_bind]
  exact hx.bind hf

/-- A loop of readings fails like one of the readings. -/
theorem failsOnly_forM {P : Fault → Prop} {items : List α} {read : α → Reading PUnit}
    (hall : ∀ item ∈ items, FailsOnly P (read item).result) :
    FailsOnly P (items.forM read).result := by
  induction items with
  | nil => exact failsOnly_ok _
  | cons item items ih =>
      obtain ⟨hfirst, hrest⟩ := List.forall_mem_cons.mp hall
      exact failsOnly_bind hfirst fun _ _ => ih hrest

end Reading

end PhotoCatalog
