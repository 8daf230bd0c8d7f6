import PhotoCatalog.Value.Basic

/-!
Mappings with distinct keys.  Setting entries keeps the keys distinct, and a mapping whose keys are
distinct results from setting its entries one after the other.
-/

namespace PhotoCatalog

variable {α : Type} {key : String} {value : α} {entries m : List (String × α)}

/-- The keys of a mapping. -/
def keysOf (entries : List (String × α)) : List String := entries.map Prod.fst

theorem mem_of_lookup (hlookup : entries.lookup key = some value) : (key, value) ∈ entries := by
  obtain ⟨before, after, hsplit, -⟩ := List.lookup_eq_some_iff.mp hlookup
  rw [hsplit]
  exact List.mem_append_right _ List.mem_cons_self

theorem setEntry_new (hnew : key ∉ keysOf entries) :
    setEntry key value entries = entries ++ [(key, value)] := by
  induction entries with
  | nil => rfl
  | cons entry entries ih =>
      obtain ⟨hfirst, hrest⟩ := not_or.mp (mt List.mem_cons.mpr hnew)
      rw [setEntry, if_neg (Ne.symm hfirst), ih hrest]
      rfl

theorem keysOf_setEntry : keysOf (setEntry key value entries) =
    if key ∈ keysOf entries then keysOf entries else keysOf entries ++ [key] := by
  induction entries with
  | nil => rfl
  | cons entry entries ih =>
      obtain ⟨k, v⟩ := entry
      rw [setEntry]
      split
      · rename_i hk
        subst hk
        exact (if_pos List.mem_cons_self).symm
      · rename_i hk
        change k :: keysOf (setEntry key value entries) = _
        rw [ih]
        have hmem : key ∈ keysOf ((k, v) :: entries) ↔ key ∈ keysOf entries := by
          rw [keysOf, List.map_cons, List.mem_cons]
          exact ⟨fun h => h.resolve_left (Ne.symm hk), Or.inr⟩
        simp only [hmem]
        split <;> rfl

theorem lookup_cons_eq_ite (k : String) (entry : String × α) : (entry :: entries).lookup k =
    if k = entry.1 then some entry.2 else entries.lookup k := by
  rw [List.lookup_cons]
  split
  · rename_i h
    exact (if_pos (beq_iff_eq.mp h)).symm
  · rename_i h
    exact (if_neg (beq_eq_false_iff_ne.mp h)).symm

/-- An entry that has been set is found under its key, and the others stay as they are. -/
theorem lookup_setEntry (k : String) : (setEntry key value entries).lookup k =
    if k = key then some value else entries.lookup k := by
  induction entries with
  | nil => exact lookup_cons_eq_ite k (key, value)
  | cons entry entries ih =>
      rw [setEntry]
      by_cases hentry : entry.1 = key
      · rw [if_pos hentry, lookup_cons_eq_ite, lookup_cons_eq_ite, hentry]
        split <;> rfl
      · rw [if_neg hentry, lookup_cons_eq_ite, lookup_cons_eq_ite, ih]
        by_cases hk : k = entry.1
        · rw [if_pos hk, if_pos hk, if_neg fun h => hentry (hk.symm.trans h)]
        · rw [if_neg hk, if_neg hk]

/-- A mapping with distinct keys is the list of its keys with what is found under them. -/
theorem map_lookup_keysOf (fallback : α) (hnodup : (keysOf entries).Nodup) :
    ((keysOf entries).map fun k => (k, (entries.lookup k).getD fallback)) = entries := by
  induction entries with
  | nil => rfl
  | cons entry entries ih =>
      obtain ⟨hnew, hrest⟩ := List.nodup_cons.mp hnodup
      have htail : ∀ k ∈ keysOf entries, (entry :: entries).lookup k = entries.lookup k := by
        intro k hk
        rw [lookup_cons_eq_ite, if_neg]
        rintro rfl
        exact hnew hk
      have hfirst : (entry :: entries).lookup entry.1 = some entry.2 := by
        rw [lookup_cons_eq_ite, if_pos rfl]
      change (entry.1, _) :: List.map _ (keysOf entries) = _
      rw [List.map_congr_left fun k hk => by rw [htail k hk], ih hrest, hfirst]
      rfl

/-- Setting an entry keeps the keys distinct. -/
theorem nodup_setEntry (hnodup : (keysOf entries).Nodup) :
    (keysOf (setEntry key value entries)).Nodup := by
  rw [keysOf_setEntry]
  split
  · exact hnodup
  · rename_i hnew
    rw [List.nodup_append]
    refine ⟨hnodup, by simp, ?_⟩
    rintro a ha b hb rfl
    rw [List.mem_singleton] at hb
    exact hnew (hb ▸ ha)

theorem foldl_setEntry (hnodup : (keysOf (m ++ entries)).Nodup) :
    entries.foldl (fun m e => setEntry e.1 e.2 m) m = m ++ entries := by
  -- The mapping grows at its end, and the entries still to come stay apart from it.
  induction entries generalizing m with
  | nil => exact (List.append_nil m).symm
  | cons entry entries ih =>
      have hsplit : m ++ entry :: entries = m ++ [entry] ++ entries := by simp
      have hnew : entry.1 ∉ keysOf m := by
        rw [keysOf, List.map_append, List.nodup_append] at hnodup
        intro hmem
        exact hnodup.2.2 _ hmem _ List.mem_cons_self rfl
      rw [List.foldl_cons, setEntry_new hnew, ih (by rwa [hsplit] at hnodup), hsplit]

/-- A mapping whose keys are distinct keeps all its entries. -/
theorem mapOfEntries_of_nodup (hnodup : (keysOf entries).Nodup) : mapOfEntries entries = entries :=
  foldl_setEntry hnodup

theorem mem_setEntry {e : String × α} (he : e ∈ setEntry key value entries) :
    e = (key, value) ∨ e ∈ entries := by
  induction entries with
  | nil => exact Or.inl (List.mem_singleton.mp he)
  | cons entry entries ih =>
      rw [setEntry] at he
      split at he
      · rename_i hkey
        rcases List.mem_cons.mp he with rfl | he
        · exact Or.inl (by rw [hkey])
        · exact Or.inr (List.mem_cons_of_mem _ he)
      · rcases List.mem_cons.mp he with rfl | he
        · exact Or.inr List.mem_cons_self
        · exact (ih he).imp_right (List.mem_cons_of_mem _)

/-- A mapping has only entries that have been set. -/
theorem mem_mapOfEntries {e : String × α} (he : e ∈ mapOfEntries entries) : e ∈ entries := by
  have hfold : ∀ m : List (String × α), e ∈ entries.foldl (fun m e => setEntry e.1 e.2 m) m →
      e ∈ m ∨ e ∈ entries := by
    clear he
    induction entries with
    | nil => exact fun _ he => Or.inl he
    | cons entry entries ih =>
        intro m he
        rcases ih _ he with he | he
        · rcases mem_setEntry he with rfl | he
          · exact Or.inr List.mem_cons_self
          · exact Or.inl he
        · exact Or.inr (List.mem_cons_of_mem _ he)
  exact (hfold [] he).resolve_left List.not_mem_nil

end PhotoCatalog
