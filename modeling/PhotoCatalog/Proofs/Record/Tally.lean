import Mathlib.Algebra.Ring.Int.Defs
import Mathlib.Data.List.Induction
import PhotoCatalog.Proofs.Value.Entries
import PhotoCatalog.Record.Basic

/-!
Tallies.  A tally has each label once, where it occurs first, with the number of its occurrences, so
that its numbers add up to the number of labels.
-/

namespace PhotoCatalog

theorem tally_append_singleton (labels : List String) (label : String) :
    tally (labels ++ [label]) = countLabel (tally labels) label := by
  rw [tally, List.foldl_append]
  rfl

/-- The labels of a tally are in the order of their first occurrence. -/
theorem keysOf_tally (labels : List String) : keysOf (tally labels) = labels.eraseDups := by
  induction labels using List.reverseRecOn with
  | nil => rfl
  | append_singleton labels label ih =>
      rw [tally_append_singleton, countLabel, keysOf_setEntry, ih, List.eraseDups_append]
      by_cases hseen : label ∈ labels
      · simp [hseen, List.removeAll]
      · simp [hseen, List.removeAll, List.eraseDups_cons]

/-- A tally has each label once. -/
theorem tally_nodup (labels : List String) : (keysOf (tally labels)).Nodup := by
  induction labels using List.reverseRecOn with
  | nil => exact List.nodup_nil
  | append_singleton labels label ih =>
      rw [tally_append_singleton]
      exact nodup_setEntry ih

/-- Under each label a tally has the number of its occurrences. -/
theorem lookup_tally (labels : List String) (label : String) :
    ((tally labels).lookup label).getD 0 = labels.count label := by
  induction labels using List.reverseRecOn with
  | nil => rfl
  | append_singleton labels last ih =>
      rw [tally_append_singleton, countLabel, lookup_setEntry, List.count_append]
      by_cases hlast : label = last
      · subst hlast
        simp [ih]
      · simp [hlast, Ne.symm hlast, ih]

/-- A tally has each label with the number of its occurrences, in the order of first occurrence. -/
theorem tally_eq (labels : List String) :
    tally labels = labels.eraseDups.map fun label => (label, (labels.count label : Int)) := by
  rw [← map_lookup_keysOf 0 (tally_nodup labels), keysOf_tally]
  exact List.map_congr_left fun label _ => by rw [lookup_tally]

example : tally ["dog", "cat", "dog"] = [("dog", 2), ("cat", 1)] := by decide

/-- No label is counted more often than there are labels. -/
theorem tally_le (labels : List String) :
    ∀ e ∈ tally labels, e.2.natAbs ≤ labels.length := by
  rw [tally_eq]
  intro e he
  obtain ⟨label, -, rfl⟩ := List.mem_map.mp he
  exact List.count_le_length

/-- The numbers of a tally add up to one more when a label is counted. -/
theorem sum_countLabel (counts : List (String × Int)) (label : String) :
    ((countLabel counts label).map Prod.snd).sum = (counts.map Prod.snd).sum + 1 := by
  induction counts with
  | nil => rfl
  | cons entry counts ih =>
      rw [countLabel, lookup_cons_eq_ite, setEntry]
      by_cases hentry : entry.1 = label
      · rw [if_pos hentry, if_pos hentry.symm]
        simp only [Option.getD_some, List.map_cons, List.sum_cons]
        omega
      · rw [if_neg hentry, if_neg (Ne.symm hentry)]
        rw [countLabel] at ih
        simp only [List.map_cons, List.sum_cons, ih]
        omega

/-- The numbers of a tally add up to the number of labels. -/
theorem sum_tally (labels : List String) : ((tally labels).map Prod.snd).sum = labels.length := by
  induction labels using List.reverseRecOn with
  | nil => rfl
  | append_singleton labels label ih =>
      rw [tally_append_singleton, sum_countLabel, ih, List.length_append]
      rfl

end PhotoCatalog
