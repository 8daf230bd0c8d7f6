import PhotoCatalog.Proofs.Json.RoundTrip

/-!
Documents on one line.  The written form of a value has no control characters, so that no line ends
within it.
-/

namespace PhotoCatalog.Json

open PhotoCatalog.Number PhotoCatalog.Text

/-- A text without control characters. -/
def Plain (text : String) : Prop := ∀ c ∈ text.toList, 32 ≤ c.toNat

variable {s t : String} {cs : List Char}

theorem plain_ofList (hcs : ∀ c ∈ cs, 32 ≤ c.toNat) : Plain (String.ofList cs) := by
  rwa [Plain, String.toList_ofList]

theorem Plain.append (hs : Plain s) (ht : Plain t) : Plain (s ++ t) := by
  intro c hc
  rw [String.toList_append, List.mem_append] at hc
  exact hc.elim (hs c) (ht c)

theorem le_toNat_of_isDigit {c : Char} (hc : c.isDigit = true) : 32 ≤ c.toNat :=
  Nat.le_trans (by decide) (isDigit_iff.mp hc).1

theorem plain_digits (hdigits : AllDigits cs) : Plain (String.ofList cs) :=
  plain_ofList fun c hc => le_toNat_of_isDigit (hdigits c hc)

theorem plain_intercalate {separator : String} (hseparator : Plain separator) {texts : List String}
    (htexts : ∀ text ∈ texts, Plain text) : Plain (separator.intercalate texts) := by
  induction texts with
  | nil =>
      rw [String.intercalate_nil]
      simp [Plain]
  | cons text texts ih =>
      obtain ⟨hfirst, hrest⟩ := List.forall_mem_cons.mp htexts
      cases texts with
      | nil => rwa [String.intercalate_singleton]
      | cons next texts =>
          rw [String.intercalate_cons_cons]
          exact (hfirst.append hseparator).append (ih hrest)

theorem plain_padded (width n : Nat) : Plain (padded width n) :=
  plain_digits ((AllDigits.zeros _).append (digitsOf_allDigits n))

theorem plain_exponentText (exponent : Int) : Plain (exponentText exponent) := by
  refine Plain.append ?_ (plain_padded 2 _)
  split <;> simp [Plain]

variable {d : Digits}

theorem plain_positional (hdigits : AllDigits d.digits) : Plain d.positional := by
  rw [Digits.positional]
  split
  · exact Plain.append (by simp [Plain]) (plain_digits ((AllDigits.zeros _).append hdigits))
  · have hfront := hdigits.of_subset (List.take_subset d.point.toNat d.digits)
    have hback := hdigits.of_subset (List.drop_subset d.point.toNat d.digits)
    refine ((plain_digits (hfront.append (AllDigits.zeros _))).append (by simp [Plain])).append ?_
    split
    · simp [Plain]
    · exact plain_digits hback

theorem plain_documentStyle : Plain documentStyle.nan ∧ Plain documentStyle.infinite := by
  simp [Plain, documentStyle]

theorem plain_scientific (hdigits : AllDigits d.digits) :
    Plain (d.scientific documentStyle) := by
  have hfront := hdigits.of_subset (List.take_subset 1 d.digits)
  have hback := hdigits.of_subset (List.drop_subset 1 d.digits)
  refine (((plain_digits hfront).append ?_).append (by simp [Plain])).append (plain_exponentText _)
  split
  · rw [if_neg (show ¬ documentStyle.pointInPower = true from Bool.false_ne_true)]
    simp [Plain]
  · exact Plain.append (by simp [Plain]) (plain_digits hback)

theorem plain_write (hdigits : AllDigits d.digits) : Plain (d.write documentStyle) := by
  rw [Digits.write]
  split_ifs
  · simp [Plain]
  · exact plain_positional hdigits
  · exact plain_scientific hdigits

theorem allDigits_shortestDigits (significand : Nat) (exponent : Int) :
    AllDigits (shortestDigits significand exponent).digits := by
  have hdrop : ∀ n, AllDigits (dropZeros (digitsOf n)) := by
    intro n
    obtain ⟨k, hk⟩ := dropZeros_append (digitsOf n)
    refine (digitsOf_allDigits n).of_subset fun c hc => ?_
    rw [hk]
    exact List.mem_append_left _ hc
  exact hdrop _

theorem plain_shortest (x : Float) : Plain (shortest documentStyle x) := by
  rw [shortest]
  split
  · exact plain_documentStyle.1
  · exact Plain.append (by split <;> simp [Plain]) plain_documentStyle.2
  · rename_i significand exponent _
    have htext : Plain (if significand = 0 then "0.0"
        else (shortestDigits significand exponent).write documentStyle) := by
      split
      · simp [Plain]
      · exact plain_write (allDigits_shortestDigits significand exponent)
    dsimp only
    split
    · exact Plain.append (by simp [Plain]) htext
    · exact htext

theorem plain_toString (n : Int) : Plain (toString n) := by
  intro c hc
  rw [toList_toString] at hc
  have hdigits : ∀ c ∈ digitsOf n.natAbs, 32 ≤ c.toNat :=
    fun c hc => le_toNat_of_isDigit (digitsOf_allDigits _ c hc)
  split at hc
  · rcases List.mem_cons.mp hc with rfl | hc
    · decide
    · exact hdigits c hc
  · exact hdigits c hc

/-- A written character is no control character, whatever it stands for. -/
theorem plain_escapedChar (c : Char) : ∀ d ∈ escapedChar c, 32 ≤ d.toNat := by
  have hunit : ∀ n < 32, (escapedUnit n).all (32 ≤ ·.toNat) = true := by decide +kernel
  rw [← List.all_iff_forall_prop, escapedChar]
  split_ifs with hquote _ _ _ _ _ hcontrol
  · rcases hquote with rfl | rfl <;> rfl
  · rfl
  · rfl
  · rfl
  · rfl
  · rfl
  · exact hunit _ hcontrol
  · simpa using hcontrol

theorem plain_writeText (s : String) : Plain (writeTextWith escapedChar s) := by
  refine plain_ofList fun c hc => ?_
  rcases List.mem_append.mp hc with hc | hc
  · rcases List.mem_cons.mp hc with rfl | hc
    · decide
    · obtain ⟨d, -, hd⟩ := List.mem_flatMap.mp hc
      exact plain_escapedChar d c hd
  · rw [List.mem_singleton.mp hc]
    decide

theorem plain_writeItems {items : List Value} (hitems : ∀ v ∈ items, Plain (write v)) :
    ∀ text ∈ writeItemsWith escapedChar items, Plain text := by
  induction items with
  | nil =>
      rw [writeItemsWith]
      exact List.forall_mem_nil _
  | cons v items ih =>
      obtain ⟨hfirst, hrest⟩ := List.forall_mem_cons.mp hitems
      rw [writeItemsWith]
      exact List.forall_mem_cons.mpr ⟨hfirst, ih hrest⟩

theorem plain_writeEntries {entries : List (String × Value)}
    (hentries : ∀ e ∈ entries, Plain (write e.2)) :
    ∀ text ∈ writeEntriesWith escapedChar entries, Plain text := by
  induction entries with
  | nil =>
      rw [writeEntriesWith]
      exact List.forall_mem_nil _
  | cons e entries ih =>
      obtain ⟨hfirst, hrest⟩ := List.forall_mem_cons.mp hentries
      have hcolon : Plain ": " := by simp [Plain]
      rw [writeEntriesWith]
      exact List.forall_mem_cons.mpr
        ⟨((plain_writeText e.1).append hcolon).append hfirst, ih hrest⟩

/-- The written form of a value is plain. -/
theorem Readable.plain_write {room : Nat} {v : Value} (hv : Readable room v) : Plain (write v) := by
  have hcomma : Plain ", " := by simp [Plain]
  induction hv with
  | null =>
      rw [write, writeWith]
      simp [Plain]
  | bool b =>
      rw [write, writeWith]
      cases b <;> simp [Plain]
  | int n =>
      rw [write, writeWith]
      exact plain_toString n
  | float x =>
      rw [write, writeWith]
      exact plain_shortest x
  | text s =>
      rw [write, writeWith]
      exact plain_writeText s
  | list _ ih =>
      have hitems := plain_intercalate hcomma (plain_writeItems ih)
      rw [write, writeWith]
      exact (Plain.append (by simp [Plain]) hitems).append (by simp [Plain])
  | map _ _ ih =>
      have hentries := plain_intercalate hcomma (plain_writeEntries ih)
      rw [write, writeWith]
      exact (Plain.append (by simp [Plain]) hentries).append (by simp [Plain])

end PhotoCatalog.Json
