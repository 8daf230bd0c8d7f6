import PhotoCatalog.Proofs.Text.Digit
import PhotoCatalog.Query.Render

/-!
The values that writing a condition binds.  Parameters are numbered in the order in which their
values are bound, so what has been bound is told by a list of values, and each value is found again
under the name that it was given.
-/

namespace PhotoCatalog.Query

open PhotoCatalog.Text

/-- The parameters that these values are bound to. -/
def Bindings.of (stem : String) (values : List Value) : Bindings :=
  ⟨stem, values.zipIdx.map fun (value, i) => (stem ++ toString i, value)⟩

theorem Bindings.start_eq_of (stem : String) : Bindings.start stem = .of stem [] := rfl

theorem Bindings.nextName_of (stem : String) (values : List Value) :
    (Bindings.of stem values).nextName = stem ++ toString values.length := by
  simp [Bindings.nextName, Bindings.of]

theorem Bindings.push_of (stem : String) (values : List Value) (value : Value) :
    (Bindings.of stem values).push value = .of stem (values ++ [value]) := by
  rw [Bindings.push, Bindings.nextName_of]
  simp [Bindings.of, List.zipIdx_append]

theorem bind_of (stem : String) (values : List Value) (value : Value) :
    Query.bind value (.of stem values) =
      (":" ++ (stem ++ toString values.length), .of stem (values ++ [value])) := by
  rw [Query.bind, Bindings.nextName_of, Bindings.push_of]

theorem toString_injective {m n : Nat} (hsame : toString m = toString n) : m = n := by
  have hdigits : digitsOf m = digitsOf n := by
    have hlists := congrArg String.toList hsame
    rwa [Nat.toString_eq_repr, Nat.toString_eq_repr, Nat.toList_repr, Nat.toList_repr] at hlists
  rw [← ofDigits_digitsOf m, hdigits, ofDigits_digitsOf]

theorem name_injective {stem : String} {m n : Nat}
    (hsame : stem ++ toString m = stem ++ toString n) : m = n := by
  apply toString_injective
  have hlists := congrArg String.toList hsame
  rw [String.toList_append, String.toList_append] at hlists
  exact String.toList_inj.mp (List.append_cancel_left hlists)

/-- A value is found under its name, whatever is bound after it. -/
theorem Bindings.lookup_of (stem : String) (values more : List Value) (value : Value) :
    (Bindings.of stem (values ++ value :: more)).params.lookup
      (stem ++ toString values.length) = some value := by
  have hbefore : ∀ pair ∈ (Bindings.of stem values).params,
      (stem ++ toString values.length != pair.1) = true := by
    intro pair hpair
    obtain ⟨⟨v, i⟩, hmem, rfl⟩ := List.mem_map.mp hpair
    rw [bne_iff_ne]
    intro hsame
    have hindex := (List.mem_zipIdx' hmem).1
    exact absurd (name_injective hsame) (by omega)
  have hsplit : (Bindings.of stem (values ++ value :: more)).params =
      (Bindings.of stem values).params ++ (stem ++ toString values.length, value) ::
        (more.zipIdx (values.length + 1)).map fun (v, i) => (stem ++ toString i, v) := by
    simp [Bindings.of, List.zipIdx_append, List.zipIdx_cons]
  rw [hsplit, List.lookup_append, List.lookup_eq_none_iff.mpr hbefore, Option.none_or,
    List.lookup_cons_self]

/-- The values of a box, the lesser one first. -/
def boxValues (box : Float × Float) : List Value := [.float box.1, .float box.2]

mutual

/-- The values that writing a condition binds, in order. -/
def Condition.values : Condition → List Value
  | .exact _ value _ => [value]
  | .like _ pattern _ => [.text pattern]
  | .range _ low high _ => low :: high.toList
  | .flag _ _ => []
  | .anyOf items => valuesOf items
  | .allOf items => valuesOf items
  | .existsIn _ condition => condition.values
  | .within region =>
    boxValues region.latBox ++ region.lonBoxes.flatMap boxValues ++
      [region.latitude, region.longitude, .float region.maxKm]
  | .unknown => []

def valuesOf : List Condition → List Value
  | [] => []
  | condition :: rest => condition.values ++ valuesOf rest

end

end PhotoCatalog.Query
