import PhotoCatalog.Proofs.Number.Limits
import PhotoCatalog.Proofs.Outcome
import PhotoCatalog.Proofs.Value.Entries
import PhotoCatalog.Proofs.Value.Short
import PhotoCatalog.Record.Reader

/-!
Bounded values.  Every whole number in them keeps to the digit limit, and no list in them is longer
than a number within the limit can tell.  What is found in a bounded value is bounded, and whole
numbers that it is converted to keep to the limit.
-/

namespace PhotoCatalog

open PhotoCatalog.Number

/-- Values without long numbers and without lists that only a long number could count. -/
inductive Value.Bounded : Value → Prop where
  | null : Bounded .null
  | bool (b : Bool) : Bounded (.bool b)
  | int {n : Int} (hshort : n.natAbs < 10 ^ maxDigits) : Bounded (.int n)
  | float (x : Float) : Bounded (.float x)
  | text (s : String) : Bounded (.text s)
  | bytes (data : List UInt8) : Bounded (.bytes data)
  | date (d : Calendar.Date) : Bounded (.date d)
  | moment (m : Calendar.Moment) : Bounded (.moment m)
  | list {items : List Value} (hitems : ∀ v ∈ items, Bounded v)
      (hlength : items.length < 10 ^ maxDigits) : Bounded (.list items)
  | map {entries : List (String × Value)} (hentries : ∀ e ∈ entries, Bounded e.2) :
      Bounded (.map entries)

namespace Value.Bounded

variable {v document : Value} {n : Int}

theorem short (hv : v.Bounded) : v.Short := by
  induction hv with
  | int hshort => exact Value.short_int.mpr hshort
  | list _ _ ih => exact Value.short_list.mpr ih
  | map _ ih => exact Value.short_map.mpr ih
  | null | bool | float | text | bytes | date | moment => simp [Value.Short, Value.wholeNumbers]

/-- What a document has under a key is bounded like the document. -/
theorem entry (hdocument : document.Bounded) (key : String) : (document.entry key).Bounded := by
  cases hdocument with
  | map hentries =>
      rw [Value.entry]
      split
      · rename_i hlookup
        exact hentries _ (mem_of_lookup hlookup)
      · rename_i entries _ _
        cases hfind : entries.find? fun e => Text.lower e.1 == Text.lower key with
        | none => exact .null
        | some e => exact hentries e (List.mem_of_find?_eq_some hfind)
  | null | bool | int | float | text | bytes | date | moment | list => exact .null

end Value.Bounded

variable {v : Value} {n : Int}

theorem Value.toInt_lt (hshort : v.Short) (hread : v.toInt = .ok n) :
    n.natAbs < 10 ^ maxDigits := by
  cases v with
  | int m =>
      cases hread
      exact Value.short_int.mp hshort
  | bool b =>
      have hone : 1 < 10 ^ maxDigits := Nat.one_lt_pow (by decide) (by decide)
      cases hread
      cases b
      · exact Nat.lt_trans Nat.zero_lt_one hone
      · exact hone
  | float x => exact intOfFloat_lt hread
  | text s => exact int?_lt (spelled_eq_ok hread)
  | bytes data => exact intOfBytes?_lt (spelled_eq_ok hread)
  | null | date | moment | list | map => cases hread

/-- A count that a short value is converted to keeps to the limit. -/
theorem Value.toCount_lt (hshort : v.Short) (hread : v.toCount = .ok n) :
    n.natAbs < 10 ^ maxDigits := by
  cases v with
  | text s =>
      obtain ⟨x, -, hread⟩ := bind_eq_ok.mp hread
      exact intOfFloat_lt hread
  | null | bool | int | float | bytes | date | moment | list | map => exact toInt_lt hshort hread

end PhotoCatalog
