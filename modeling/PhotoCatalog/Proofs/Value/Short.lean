import PhotoCatalog.Number.Numeral
import PhotoCatalog.Value.Basic

/-!
Whole numbers and the digit limit.  A value is short when every whole number in it, however deep,
keeps to the limit.
-/

namespace PhotoCatalog

open PhotoCatalog.Number

mutual

/-- The whole numbers of a value, first one first. -/
def Value.wholeNumbers : Value → List Int
  | .int n => [n]
  | .list items => itemNumbers items
  | .map entries => entryNumbers entries
  | _ => []

/-- The whole numbers of the items of a list. -/
def itemNumbers : List Value → List Int
  | [] => []
  | v :: rest => v.wholeNumbers ++ itemNumbers rest

/-- The whole numbers of the entries of a mapping. -/
def entryNumbers : List (String × Value) → List Int
  | [] => []
  | (_, v) :: rest => v.wholeNumbers ++ entryNumbers rest

end

/-- Whether all whole numbers of a value keep to the digit limit. -/
def Value.Short (v : Value) : Prop := ∀ n ∈ v.wholeNumbers, n.natAbs < 10 ^ maxDigits

instance : DecidablePred Value.Short := fun v =>
  inferInstanceAs (Decidable (∀ n ∈ v.wholeNumbers, n.natAbs < 10 ^ maxDigits))

namespace Value

variable {v : Value} {items : List Value} {entry : String × Value}
  {entries : List (String × Value)}

/-- A value without whole numbers is short. -/
theorem short_of_no_numbers (hnone : v.wholeNumbers = []) : v.Short := by
  rw [Short, hnone]
  exact List.forall_mem_nil _

theorem short_null : Short .null := short_of_no_numbers rfl

theorem short_bool (b : Bool) : Short (.bool b) := short_of_no_numbers rfl

theorem short_float (x : Float) : Short (.float x) := short_of_no_numbers rfl

theorem short_text (s : String) : Short (.text s) := short_of_no_numbers rfl

theorem short_nil : Short (.list []) := short_of_no_numbers rfl

theorem short_empty : Short (.map []) := short_of_no_numbers rfl

theorem short_int {n : Int} : Short (.int n) ↔ n.natAbs < 10 ^ maxDigits := by
  change (∀ k ∈ [n], k.natAbs < 10 ^ maxDigits) ↔ _
  exact List.forall_mem_singleton

/-- A list is short when its items are. -/
theorem short_cons : Short (.list (v :: items)) ↔ v.Short ∧ Short (.list items) := by
  simp only [Short, wholeNumbers, itemNumbers, List.mem_append, or_imp, forall_and]

/-- A mapping is short when the values of its entries are. -/
theorem short_entry : Short (.map (entry :: entries)) ↔ entry.2.Short ∧ Short (.map entries) := by
  simp only [Short, wholeNumbers, entryNumbers, List.mem_append, or_imp, forall_and]

theorem short_list : Short (.list items) ↔ ∀ v ∈ items, v.Short := by
  induction items with
  | nil => exact iff_of_true short_nil (List.forall_mem_nil _)
  | cons v items ih => rw [short_cons, ih, List.forall_mem_cons]

theorem short_map : Short (.map entries) ↔ ∀ entry ∈ entries, entry.2.Short := by
  induction entries with
  | nil => exact iff_of_true short_empty (List.forall_mem_nil _)
  | cons entry entries ih => rw [short_entry, ih, List.forall_mem_cons]

end Value

end PhotoCatalog
