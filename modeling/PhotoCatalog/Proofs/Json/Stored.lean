import PhotoCatalog.Proofs.Json.Pieces
import PhotoCatalog.Proofs.Number.Stored

/-!
Reals of the catalog in documents.  The catalog writes a finite real with fifteen digits, so that it
may come back as a neighbour; but some double always comes back.
-/

namespace PhotoCatalog.Json

open PhotoCatalog.Number PhotoCatalog.Text

variable {x : Float} {negative : Bool} {significand : Nat} {exponent : Int}

/-- Behind the sign of a finite real stand digits that are read as a double. -/
theorem storedText_finite (hparts : partsOf x = .finite negative significand exponent) :
    ∃ (sign : Bool) (text : List Char), (storedText x).toList =
      (if sign then '-' :: text else text) ∧
      (∃ c cs, text = c :: cs ∧ c.isDigit = true) ∧
      ∃ size, ∀ rest, EndsNumber rest → ∀ below, readNumber below (text ++ rest) =
        .ok (.float (withSign below size), rest) := by
  obtain ⟨hkind, -⟩ := eq_of_partsOf_finite hparts
  simp only [storedText, hparts, toList_minus]
  rcases hkind with ⟨rfl, rfl⟩ | hrep
  · -- A zero has no sign here.
    refine ⟨false, "0.0".toList, ?_, ⟨'0', ['.', '0'], rfl, rfl⟩, _,
      fun rest hrest below => readNumber_zero hrest⟩
    rw [if_neg (fun h => h.2 rfl), if_pos rfl]
    rfl
  · obtain ⟨hleast, hmost⟩ := hrep.value_bounds
    rw [← Ratio.ofBinary_value] at hleast hmost
    obtain ⟨hdigits, hhead⟩ :=
      fifteenDigits_spec (Ratio.ofBinary_den_pos significand exponent) hleast hmost
    have hproper : (fifteenDigits (.ofBinary significand exponent)).Proper := ⟨hdigits, hhead⟩
    obtain ⟨n, power, -, hread⟩ := readsAs_write storedStyle hproper
    have hpositive := hrep.positive.ne'
    refine ⟨negative, _, ?_, write_head storedStyle hproper, _, hread⟩
    simp only [hpositive, if_false, ne_eq, not_false_eq_true, and_true]

/-- A finite real is read from its text as a double. -/
theorem readsFrom_storedText (hfinite : isFinite x = true) :
    ∃ y, ∀ room, ReadsFrom room (storedText x) (.float y) := by
  cases hparts : partsOf x with
  | nan => simp [isFinite, hparts] at hfinite
  | infinite below => simp [isFinite, hparts] at hfinite
  | finite negative significand exponent =>
      obtain ⟨sign, text, htext, hhead, size, hread⟩ := storedText_finite hparts
      refine ⟨withSign sign size, fun room => readsFrom_atom ?_ ?_⟩
      · rw [htext]
        exact startsAtom_signed hhead
      · intro rest hrest
        rw [htext, outcome_short (Value.short_float _), readAtom_signed hhead (hread rest hrest)]

end PhotoCatalog.Json
