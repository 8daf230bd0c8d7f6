import PhotoCatalog.Proofs.Outcome
import PhotoCatalog.Proofs.Value.Entries
import PhotoCatalog.Record.Reader

/-!
Written values.  What a document holds under a key is found there, it is usable for its place, and
no column is asked for it.
-/

namespace PhotoCatalog

variable {α : Type} {convert : Value → Except Fault α} {place column key : String} {v : Value}
  {a : α} {o : Option α} {entries : List (String × Value)}

theorem lookup_of_mem (hkeys : (keysOf entries).Nodup) (hmem : (key, v) ∈ entries) :
    entries.lookup key = some v := by
  induction entries with
  | nil => contradiction
  | cons entry entries ih =>
      obtain ⟨hnew, hrest⟩ := List.nodup_cons.mp hkeys
      rcases List.mem_cons.mp hmem with rfl | hmem
      · rw [List.lookup_cons, beq_self_eq_true]
      · have hother : (key == entry.1) = false := by
          rw [beq_eq_false_iff_ne]
          rintro rfl
          exact hnew (List.mem_map.mpr ⟨_, hmem, rfl⟩)
        rw [List.lookup_cons, hother]
        exact ih hrest hmem

/-- A document has under each of its distinct keys the value that stands there. -/
theorem Value.entry_of_mem (hkeys : (keysOf entries).Nodup) (hmem : (key, v) ∈ entries) :
    (Value.map entries).entry key = v := by
  simp only [Value.entry, lookup_of_mem hkeys hmem]

/-- A document has nothing under a key that no key of it equals up to case. -/
theorem Value.entry_of_absent
    (habsent : ∀ k ∈ keysOf entries, Text.lower k ≠ Text.lower key) :
    (Value.map entries).entry key = .null := by
  have hexact : entries.lookup key = none := by
    rw [List.lookup_eq_none_iff]
    intro entry hentry
    rw [bne_iff_ne]
    intro heq
    exact habsent entry.1 (List.mem_map.mpr ⟨entry, hentry, rfl⟩) (heq ▸ rfl)
  have hcase : (entries.find? fun e => Text.lower e.1 == Text.lower key) = none := by
    rw [List.find?_eq_none]
    intro entry hentry
    rw [beq_iff_eq]
    exact habsent entry.1 (List.mem_map.mpr ⟨entry, hentry, rfl⟩)
  simp only [Value.entry, hexact, hcase]
  rfl

/-- A value that converts is usable. -/
theorem usable_of_ok (hnull : v ≠ .null) (hconvert : convert v = .ok a) :
    (usable convert place v).result = .ok (some a) := by
  rw [usable]
  · rw [hconvert]
    rfl
  · exact hnull

/-- What a document tells is not looked for in a row. -/
theorem merged_of_some (husable : (usable convert place v).result = .ok (some a)) (row : Row) :
    (merged convert place v column row).result = .ok (some a) := by
  rw [merged, Reading.orElse, Reading.result_bind, husable]
  rfl

/-- Without a row what a document does not tell stays unknown. -/
theorem merged_nil (husable : (usable convert place v).result = .ok o) :
    (merged convert place v column []).result = .ok o := by
  rw [merged, Reading.orElse, Reading.result_bind, husable]
  cases o <;> rfl

/-- An optional value is usable as it was written. -/
theorem usable_ofOption {toValue : α → Value} (hnull : ∀ a, toValue a ≠ .null)
    (hconvert : ∀ a, convert (toValue a) = .ok a) (o : Option α) :
    (usable convert place (.ofOption toValue o)).result = .ok o := by
  cases o with
  | none => rfl
  | some a => exact usable_of_ok (hnull a) (hconvert a)

theorem usable_text (o : Option String) :
    (usable Value.toText place (.ofOption .text o)).result = .ok o := by
  apply usable_ofOption
  · exact fun _ => nofun
  · exact fun _ => rfl

theorem usable_int (o : Option Int) :
    (usable Value.toCount place (.ofOption .int o)).result = .ok o := by
  apply usable_ofOption
  · exact fun _ => nofun
  · exact fun _ => rfl

theorem usable_float (x : Float) : (usable Value.toFloat place (.float x)).result = .ok (some x) :=
  rfl

theorem usable_bool (b : Bool) : (usable Value.toBool place (.bool b)).result = .ok (some b) :=
  rfl

theorem merged_text (o : Option String) :
    (merged Value.toText place (.ofOption .text o) column []).result = .ok o :=
  merged_nil (usable_text o)

theorem merged_int (n : Int) (row : Row) :
    (merged Value.toCount place (.int n) column row).result = .ok (some n) :=
  merged_of_some rfl row

theorem merged_float (x : Float) (row : Row) :
    (merged Value.toFloat place (.float x) column row).result = .ok (some x) :=
  merged_of_some (usable_float x) row

theorem merged_bool (b : Bool) (row : Row) :
    (merged Value.toBool place (.bool b) column row).result = .ok (some b) :=
  merged_of_some (usable_bool b) row

/-- A list of texts is read as it was written. -/
theorem textsOf_ofTexts (texts : List String) : textsOf (.ofTexts texts) = .ok texts := by
  have hkept : (texts.map Value.text).filter (!·.isNull) = texts.map Value.text := by
    rw [List.filter_eq_self]
    intro v hv
    obtain ⟨s, -, rfl⟩ := List.mem_map.mp hv
    rfl
  rw [Value.ofTexts, textsOf, hkept, List.map_map]
  exact congrArg Except.ok (List.map_id texts)

theorem readTexts_ofTexts (texts : List String) :
    (readTexts (.ofTexts texts)).result = .ok texts := by
  have htexts : (Value.ofTexts texts).toTexts = .ok texts := textsOf_ofTexts texts
  rw [readTexts, htexts]
  · rfl
  · exact nofun

end PhotoCatalog
