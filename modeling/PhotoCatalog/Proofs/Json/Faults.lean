import PhotoCatalog.Json.Reader
import PhotoCatalog.Proofs.Outcome

/-!
How the reading of a JSON text fails.  The text is no document, or it is one that goes beyond a limit
of the reader: a whole number with too many digits, or lists and mappings that are nested too deeply.
-/

namespace PhotoCatalog.Json

/-- The faults of the reader. -/
def IsReaderFault (fault : Fault) : Prop :=
  fault = .malformedDocument ∨ fault = .malformedNumber ∨ fault = .nestedTooDeeply

theorem isReaderFault_malformed : IsReaderFault .malformedDocument := Or.inl rfl

variable {cs : List Char}

theorem readText_fails : FailsOnly IsReaderFault (readText cs) := by
  rw [readText]
  split
  · exact failsOnly_ok _
  · exact failsOnly_error.mpr isReaderFault_malformed

theorem readNumber_fails {negative : Bool} : FailsOnly IsReaderFault (readNumber negative cs) := by
  rw [readNumber]
  split
  · exact failsOnly_error.mpr isReaderFault_malformed
  · dsimp only
    split
    · split
      · exact failsOnly_error.mpr (Or.inr (Or.inl rfl))
      · exact failsOnly_ok _
    · exact failsOnly_ok _

theorem readAtom_fails : FailsOnly IsReaderFault (readAtom cs) := by
  rw [readAtom.eq_def]
  split
  · exact readText_fails.map
  · split
    · exact failsOnly_ok _
    · split
      · exact readNumber_fails
      · exact readNumber_fails

theorem readKey_fails : FailsOnly IsReaderFault (readKey cs) := by
  rw [readKey.eq_def]
  split
  · refine readText_fails.bind fun (key, rest) _ => ?_
    dsimp only
    split
    · exact failsOnly_ok _
    · exact failsOnly_error.mpr isReaderFault_malformed
  · exact failsOnly_error.mpr isReaderFault_malformed

theorem enter_fails (room : Nat) : FailsOnly IsReaderFault (enter room) := by
  cases room with
  | zero => exact failsOnly_error.mpr (Or.inr (Or.inr rfl))
  | succ room => exact failsOnly_ok room

/-- How the readers fail with this much fuel. -/
structure ReadersFail (fuel : Nat) : Prop where
  value (room : Nat) (cs : List Char) : FailsOnly IsReaderFault (readValue fuel room cs)
  items (room : Nat) (cs : List Char) : FailsOnly IsReaderFault (readItems fuel room cs)
  entries (room : Nat) (cs : List Char) : FailsOnly IsReaderFault (readEntries fuel room cs)

variable {fuel : Nat}

theorem readValue_fails (hreaders : ReadersFail fuel) (room : Nat) (cs : List Char) :
    FailsOnly IsReaderFault (readValue (fuel + 1) room cs) := by
  rw [readValue.eq_def]
  dsimp only
  split
  · refine (enter_fails room).bind fun room _ => ?_
    split
    · exact failsOnly_ok _
    · exact (hreaders.items room _).bind fun _ _ => failsOnly_ok _
  · refine (enter_fails room).bind fun room _ => ?_
    split
    · exact failsOnly_ok _
    · exact (hreaders.entries room _).bind fun _ _ => failsOnly_ok _
  · exact readAtom_fails

theorem readItems_fails (hreaders : ReadersFail fuel) (room : Nat) (cs : List Char) :
    FailsOnly IsReaderFault (readItems (fuel + 1) room cs) := by
  rw [readItems]
  refine (hreaders.value room cs).bind fun (item, rest) _ => ?_
  dsimp only
  split
  · exact (hreaders.items room _).bind fun _ _ => failsOnly_ok _
  · exact failsOnly_ok _
  · exact failsOnly_error.mpr isReaderFault_malformed

theorem readEntries_fails (hreaders : ReadersFail fuel) (room : Nat) (cs : List Char) :
    FailsOnly IsReaderFault (readEntries (fuel + 1) room cs) := by
  rw [readEntries]
  refine readKey_fails.bind fun (key, rest) _ => ?_
  refine (hreaders.value room rest).bind fun (value, rest) _ => ?_
  dsimp only
  split
  · exact (hreaders.entries room _).bind fun _ _ => failsOnly_ok _
  · exact failsOnly_ok _
  · exact failsOnly_error.mpr isReaderFault_malformed

theorem readersFail (fuel : Nat) : ReadersFail fuel := by
  induction fuel with
  | zero =>
      have hmalformed := isReaderFault_malformed
      refine ⟨fun room cs => ?_, fun room cs => ?_, fun room cs => ?_⟩
      · rw [readValue]
        exact failsOnly_error.mpr hmalformed
      · rw [readItems]
        exact failsOnly_error.mpr hmalformed
      · rw [readEntries]
        exact failsOnly_error.mpr hmalformed
  | succ fuel ih => exact ⟨readValue_fails ih, readItems_fails ih, readEntries_fails ih⟩

theorem read_fails (text : String) : FailsOnly IsReaderFault (read text) := by
  refine ((readersFail _).value _ _).bind fun (value, rest) _ => ?_
  dsimp only
  split
  · exact failsOnly_ok _
  · exact failsOnly_error.mpr isReaderFault_malformed

end PhotoCatalog.Json
