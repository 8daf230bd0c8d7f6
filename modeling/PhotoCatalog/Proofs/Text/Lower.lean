import PhotoCatalog.Proofs.Text.Case

/-!
Lower case and ASCII letters.  Changing the case of ASCII letters in a text does not change its
lower case: such letters are cased in either case, so they also tell the same about the end of a
word.
-/

namespace PhotoCatalog.Text

/-- Texts that are the same up to the case of ASCII letters. -/
def SameLetters (s t : String) : Prop := s.toList.map asciiLower = t.toList.map asciiLower

instance (s t : String) : Decidable (SameLetters s t) :=
  inferInstanceAs (Decidable (s.toList.map asciiLower = t.toList.map asciiLower))

/-- Spans that hold an ASCII letter in both cases or in neither. -/
def AsciiClosed (spans : List Span) : Prop :=
  ∀ n < 91, 65 ≤ n → spans.any (·.contains (n + 32)) = spans.any (·.contains n)

theorem casedSpans_asciiClosed : AsciiClosed casedSpans := by
  unfold AsciiClosed
  decide +kernel

theorem ignorableSpans_asciiClosed : AsciiClosed ignorableSpans := by
  unfold AsciiClosed
  decide +kernel

theorem AsciiClosed.inSpans_asciiLower {spans : List Span} (hclosed : AsciiClosed spans)
    (c : Char) :
    inSpans spans (asciiLower c) = inSpans spans c := by
  rw [inSpans, inSpans, asciiLower_toNat]
  split
  · rename_i hupper
    exact hclosed c.toNat (by omega) hupper.1
  · rfl

theorem wordGoesOn_map_asciiLower (cs : List Char) :
    wordGoesOn (cs.map asciiLower) = wordGoesOn cs := by
  have hskip : inSpans ignorableSpans ∘ asciiLower = inSpans ignorableSpans :=
    funext ignorableSpans_asciiClosed.inSpans_asciiLower
  rw [wordGoesOn, wordGoesOn, List.dropWhile_map, hskip]
  cases cs.dropWhile (inSpans ignorableSpans) with
  | nil => rfl
  | cons c rest => exact casedSpans_asciiClosed.inSpans_asciiLower c

theorem lowerChar_asciiLower (c : Char) : lowerChar (asciiLower c) = lowerChar c := by
  have hagain : asciiLower (asciiLower c) = asciiLower c := by
    apply Char.toNat_inj.mp
    rw [asciiLower_toNat (asciiLower c), if_neg]
    rw [asciiLower_toNat]
    split <;> omega
  exact eq_of_asciiLower_eq (g := fun c => [c]) hagain

theorem lowerAfter_map_asciiLower (before cs : List Char) :
    lowerAfter (before.map asciiLower) (cs.map asciiLower) = lowerAfter before cs := by
  -- A sigma looks at both sides, so what precedes is mapped along with what follows.
  induction cs generalizing before with
  | nil => rfl
  | cons c cs ih =>
      have hrest : lowerAfter (asciiLower c :: before.map asciiLower) (cs.map asciiLower) =
          lowerAfter (c :: before) cs := ih (c :: before)
      have hsigma : (asciiLower c).toNat = 0x3A3 ↔ c.toNat = 0x3A3 := by
        rw [asciiLower_toNat]
        split <;> omega
      rw [List.map_cons, lowerAfter, lowerAfter]
      simp only [hsigma, wordGoesOn_map_asciiLower, lowerChar_asciiLower, hrest]

/-- Texts that are the same up to the case of ASCII letters have the same lower case. -/
theorem SameLetters.lower_eq {s t : String} (hsame : SameLetters s t) : lower s = lower t := by
  rw [lower, lower, ← lowerAfter_map_asciiLower [] s.toList,
    ← lowerAfter_map_asciiLower [] t.toList, hsame]

end PhotoCatalog.Text
