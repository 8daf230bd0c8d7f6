import PhotoCatalog.Proofs.Record.Written
import PhotoCatalog.Proofs.Value.Fits

/-!
Mappings whose keys are distinct up to case.  What such a mapping has under a key does not depend on
the order of its entries, nor on the case in which the key is written, and an entry can be changed
or taken out without anything happening to the others.
-/

namespace PhotoCatalog

open PhotoCatalog.Text

/-- The keys of a mapping, up to case. -/
def lowerKeysOf (entries : List (String × Value)) : List String := entries.map fun e => lower e.1

/-- A mapping without two keys that are the same up to case, or no mapping at all. -/
def Value.HasDistinctKeys : Value → Prop
  | .map entries => (lowerKeysOf entries).Nodup
  | _ => True

/-- Documents in which no mapping has two keys that are the same up to case. -/
abbrev Value.Unambiguous (document : Value) : Prop := document.Throughout Value.HasDistinctKeys

/-- Mappings and lists; nothing else is a document. -/
def Value.isDocument : Value → Bool
  | .map _ | .list _ => true
  | _ => false

variable {key k k' : String} {v w : Value} {before after entries entries' : List (String × Value)}

/-- Where keys are distinct up to case, the entry under a key is the one whose key is the same up to
case. -/
theorem Value.entry_of_lower_mem (hdistinct : (lowerKeysOf entries).Nodup) (hmem : (k, v) ∈ entries)
    (hkey : lower k = lower key) : (Value.map entries).entry key = v := by
  have honly : ∀ e ∈ entries, lower e.1 = lower key → e.2 = v := by
    intro e he hlower
    have heq := List.inj_on_of_nodup_map hdistinct he hmem (hlower.trans hkey.symm)
    rw [heq]
  rw [Value.entry]
  split
  · rename_i hlookup
    exact honly _ (mem_of_lookup hlookup) rfl
  · cases hfind : entries.find? fun e => lower e.1 == lower key with
    | none =>
        rw [List.find?_eq_none] at hfind
        exact absurd (beq_iff_eq.mpr hkey) (hfind (k, v) hmem)
    | some e =>
        have hlower := List.find?_some hfind
        rw [beq_iff_eq] at hlower
        exact honly e (List.mem_of_find?_eq_some hfind) hlower

/-- Looking for another key passes over an entry. -/
theorem Value.entry_passes (hkey : lower k ≠ lower key) :
    (Value.map (before ++ (k, v) :: after)).entry key =
      (Value.map (before ++ after)).entry key := by
  have hexact : (key == k) = false := by
    rw [beq_eq_false_iff_ne]
    rintro rfl
    exact hkey rfl
  have hcase : (lower k == lower key) = false := beq_eq_false_iff_ne.mpr hkey
  simp only [Value.entry, List.lookup_append, List.lookup_cons, hexact, List.find?_append,
    List.find?_cons, hcase]

/-- What a mapping has under the keys, told by one of its entries and the others. -/
theorem Value.entry_split (hdistinct : (lowerKeysOf (before ++ (k, v) :: after)).Nodup)
    (key : String) : (Value.map (before ++ (k, v) :: after)).entry key =
      if lower k = lower key then v else (Value.map (before ++ after)).entry key := by
  split
  · rename_i hkey
    exact Value.entry_of_lower_mem hdistinct (by simp) hkey
  · rename_i hkey
    exact Value.entry_passes hkey

/-- Without its entry a mapping has nothing under a key. -/
theorem Value.entry_without (hdistinct : (lowerKeysOf (before ++ (k, v) :: after)).Nodup)
    (hkey : lower k = lower key) : (Value.map (before ++ after)).entry key = .null := by
  apply Value.entry_of_absent
  intro other hother hlower
  have hnew : lower k ∉ lowerKeysOf (before ++ after) := by
    have hfirst := hdistinct.perm (List.perm_middle.map _)
    exact (List.nodup_cons.mp hfirst).1
  obtain ⟨e, he, rfl⟩ := List.mem_map.mp hother
  exact hnew (List.mem_map.mpr ⟨e, he, hlower.trans hkey.symm⟩)

/-- The order of the entries does not matter. -/
theorem Value.entry_perm (hdistinct : (lowerKeysOf entries).Nodup) (hperm : entries.Perm entries')
    (key : String) : (Value.map entries').entry key = (Value.map entries).entry key := by
  by_cases hhas : ∃ e ∈ entries, lower e.1 = lower key
  · obtain ⟨e, he, hlower⟩ := hhas
    rw [Value.entry_of_lower_mem hdistinct he hlower,
      Value.entry_of_lower_mem (hdistinct.perm (hperm.map _)) (hperm.mem_iff.mp he) hlower]
  · have habsent : ∀ k ∈ keysOf entries, lower k ≠ lower key := by
      intro k hk hlower
      obtain ⟨e, he, rfl⟩ := List.mem_map.mp hk
      exact hhas ⟨e, he, hlower⟩
    rw [Value.entry_of_absent habsent, Value.entry_of_absent]
    exact fun k hk => habsent k ((hperm.map Prod.fst).mem_iff.mpr hk)

namespace Value.Unambiguous

theorem of_no_document (hvalue : v.isDocument = false) : v.Unambiguous := by
  intro w hw
  cases hw with
  | self =>
      cases v with
      | map | list => contradiction
      | null | bool | int | float | text | bytes | date | moment => exact trivial
  | item | entry => contradiction

/-- An entry may be given another value, and another spelling of its key. -/
theorem replace (hdocument : (Value.map (before ++ (k, v) :: after)).Unambiguous)
    (hkey : lower k' = lower k) (hw : w.Unambiguous) :
    (Value.map (before ++ (k', w) :: after)).Unambiguous := by
  have hdistinct : (lowerKeysOf (before ++ (k, v) :: after)).Nodup := hdocument.self
  have hothers := hdocument.entries
  simp only [List.forall_mem_append, List.forall_mem_cons] at hothers
  refine Value.Throughout.map ?_ ?_
  · have hkeys : lowerKeysOf (before ++ (k', w) :: after) =
        lowerKeysOf (before ++ (k, v) :: after) := by
      simp [lowerKeysOf, hkey]
    rwa [← hkeys] at hdistinct
  · simp only [List.forall_mem_append, List.forall_mem_cons]
    exact ⟨hothers.1, hw, hothers.2.2⟩

theorem without (hdocument : (Value.map (before ++ (k, v) :: after)).Unambiguous) :
    (Value.map (before ++ after)).Unambiguous := by
  have hsub : (before ++ after).Sublist (before ++ (k, v) :: after) :=
    (List.Sublist.refl before).append (List.sublist_cons_self _ _)
  have hdistinct : (lowerKeysOf (before ++ (k, v) :: after)).Nodup := hdocument.self
  exact .map (hdistinct.sublist (hsub.map _)) fun e he => hdocument.entries e (hsub.subset he)

theorem perm (hdocument : (Value.map entries).Unambiguous) (hperm : entries.Perm entries') :
    (Value.map entries').Unambiguous := by
  have hdistinct : (lowerKeysOf entries).Nodup := hdocument.self
  exact .map (hdistinct.perm (hperm.map _)) fun e he => hdocument.entries e (hperm.mem_iff.mpr he)

theorem replaceItem {before after : List Value}
    (hdocument : (Value.list (before ++ v :: after)).Unambiguous) (hw : w.Unambiguous) :
    (Value.list (before ++ w :: after)).Unambiguous := by
  have hothers := hdocument.items
  simp only [List.forall_mem_append, List.forall_mem_cons] at hothers
  refine Value.Throughout.list trivial ?_
  simp only [List.forall_mem_append, List.forall_mem_cons]
  exact ⟨hothers.1, hw, hothers.2.2⟩

end Value.Unambiguous

end PhotoCatalog
