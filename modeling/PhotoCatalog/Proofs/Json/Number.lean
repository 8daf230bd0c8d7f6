import PhotoCatalog.Json.Printer
import PhotoCatalog.Json.Reader
import PhotoCatalog.Proofs.Number.Numeral
import PhotoCatalog.Proofs.Number.Parts
import PhotoCatalog.Proofs.Text.Padded

/-!
Numbers in JSON texts.  A whole number up to the digit limit and every double, the infinite ones
and the undefined one included, are read back from their written form.
-/

namespace PhotoCatalog.Json

open PhotoCatalog.Number PhotoCatalog.Text

/-- Whether a number that stands before these characters ends there. -/
def EndsNumber (rest : List Char) : Prop :=
  ∀ c, rest.head? = some c → c.isDigit = false ∧ c ≠ '.' ∧ c ≠ 'e' ∧ c ≠ 'E'

variable {cs ds rest : List Char} {c : Char} {negative : Bool}

theorem readWhole_zero : readWhole ('0' :: rest) = some ([0], rest) := rfl

theorem readWhole_digits (hc : c ≠ '0') (hdigits : AllDigits (c :: cs))
    (hrest : ∀ d, rest.head? = some d → d.isDigit = false) :
    readWhole (c :: cs ++ rest) = some ((c :: cs).map digitOf, rest) := by
  rw [readWhole]
  · rw [takeDigits_append hdigits hrest]
    rfl
  · rintro _ hzero
    exact hc (List.cons.inj hzero).1

theorem readWhole_digitsOf (n : Nat) (hrest : ∀ d, rest.head? = some d → d.isDigit = false) :
    readWhole (digitsOf n ++ rest) = some ((digitsOf n).map digitOf, rest) := by
  rcases Nat.eq_zero_or_pos n with rfl | hpos
  · rfl
  · obtain ⟨c, cs, hdigits, hc⟩ := digitsOf_head hpos
    have hall := digitsOf_allDigits n
    rw [hdigits] at hall ⊢
    exact readWhole_digits hc hall hrest

theorem readFraction_none (hrest : rest.head? ≠ some '.') : readFraction rest = ([], rest) := by
  rw [readFraction]
  rintro tail rfl
  exact hrest rfl

theorem readFraction_digits (hds : ds ≠ []) (hdigits : AllDigits ds)
    (hrest : ∀ d, rest.head? = some d → d.isDigit = false) :
    readFraction ('.' :: (ds ++ rest)) = (ds.map digitOf, rest) := by
  rw [readFraction, takeDigits_append hdigits hrest]
  cases ds with
  | nil => exact absurd rfl hds
  | cons d ds => rfl

theorem readExponent_none (hrest : EndsNumber rest) : readExponent rest = (none, rest) := by
  cases rest with
  | nil => rfl
  | cons c rest =>
      obtain ⟨-, -, hsmall, hlarge⟩ := hrest c rfl
      rw [readExponent, if_neg (by rintro (h | h) <;> contradiction)]

/-- A whole number is its size with its sign. -/
theorem signed_natAbs (n : Int) : signed (decide (n < 0)) n.natAbs = n := by
  rw [signed]
  split
  · rename_i hnegative
    have hnegative' := of_decide_eq_true hnegative
    omega
  · rename_i hpositive
    have hpositive' : ¬ n < 0 := fun h => hpositive (decide_eq_true h)
    omega

theorem readExponent_digits (hds : ds ≠ []) (hdigits : AllDigits ds) (hrest : EndsNumber rest)
    (negative : Bool) :
    readExponent ('e' :: (if negative then '-' else '+') :: (ds ++ rest)) =
      (some (signed negative (ofDigits (ds.map digitOf))), rest) := by
  have htake := takeDigits_append hdigits fun d hd => (hrest d hd).1
  rw [readExponent, if_pos (Or.inl rfl)]
  cases ds with
  | nil => exact absurd rfl hds
  | cons d ds =>
      cases negative with
      | false =>
          simp only [Bool.false_eq_true, if_false, takeSign, htake, List.map_cons, signed]
      | true => simp only [if_true, takeSign, htake, List.map_cons, signed]

/-- An exponent is read back from its text. -/
theorem readExponent_exponentText (exponent : Int) (hrest : EndsNumber rest) :
    readExponent ('e' :: ((exponentText exponent).toList ++ rest)) = (some exponent, rest) := by
  have htext : (exponentText exponent).toList = (if decide (exponent < 0) then '-' else '+') ::
      (padded 2 exponent.natAbs).toList := by
    rw [exponentText, String.toList_append]
    split <;> simp_all
  have hvalue : ofDigits ((padded 2 exponent.natAbs).toList.map digitOf) = exponent.natAbs := by
    rw [ofDigits_map, ofDigitChars_padded]
  rw [htext, List.cons_append, readExponent_digits _ _ hrest, hvalue, signed_natAbs]
  · rw [padded, String.toList_ofList]
    exact List.append_ne_nil_of_right_ne_nil _ Nat.toDigits_ne_nil
  · exact padded_allDigits 2 exponent.natAbs

theorem readNumber_float {whole fraction : List Nat} {tail tail' : List Char} {power : Option Int}
    (hwhole : readWhole cs = some (whole, tail)) (hfraction : readFraction tail = (fraction, tail'))
    (hpower : readExponent tail' = (power, rest)) (hfloat : fraction ≠ [] ∨ power ≠ none) :
    readNumber negative cs = .ok (.float (withSign negative
      (ofDecimal (ofDigits (whole ++ fraction)) (power.getD 0 - fraction.length))), rest) := by
  have hshape : (fraction.isEmpty && power.isNone) = false := by
    rw [Bool.and_eq_false_iff, List.isEmpty_eq_false_iff, Option.isNone_eq_false_iff,
      Option.isSome_iff_ne_none]
    exact hfloat
  simp only [readNumber, hwhole, hfraction, hpower, hshape]
  rfl

/-- A number with digits on both sides of a point. -/
theorem readNumber_point (hc : c ≠ '0') (hwhole : AllDigits (c :: cs)) (hds : ds ≠ [])
    (hfraction : AllDigits ds) (hrest : EndsNumber rest) :
    readNumber negative (c :: cs ++ '.' :: (ds ++ rest)) = .ok (.float (withSign negative
      (ofDecimal (Nat.ofDigitChars 10 (c :: cs ++ ds) 0) (-ds.length))), rest) := by
  have hpoint : ∀ d, ('.' :: (ds ++ rest)).head? = some d → d.isDigit = false := by
    rintro _ ⟨⟩
    rfl
  rw [readNumber_float (readWhole_digits hc hwhole hpoint)
    (readFraction_digits hds hfraction fun d hd => (hrest d hd).1) (readExponent_none hrest)
    (Or.inl (by simpa using hds)), ← List.map_append, ofDigits_map, List.length_map]
  simp

variable {d : Digits} {significand : Nat} {exponent : Int}

/-- The characters are read as a number of this size, with either sign before them, whatever stands
behind them that ends a number. -/
def ReadsAs (text : List Char) (size : ℚ) : Prop :=
  ∃ (n : Nat) (power : Int), (n : ℚ) * (10 : ℚ) ^ power = size ∧
    ∀ rest, EndsNumber rest → ∀ negative, readNumber negative (text ++ rest) =
      .ok (.float (withSign negative (ofDecimal n power)), rest)

/-- Digits behind the point are read back. -/
theorem readsAs_fraction (hproper : d.Proper) (hsmall : d.point ≤ 0) :
    ReadsAs d.positional.toList d.value := by
  obtain ⟨c, cs, hhead, -⟩ := hproper.head
  have hdigits : AllDigits (List.replicate (-d.point).toNat '0' ++ d.digits) :=
    (AllDigits.zeros _).append hproper.digits
  have hsome : List.replicate (-d.point).toNat '0' ++ d.digits ≠ [] := by
    rw [hhead]
    exact List.append_ne_nil_of_right_ne_nil _ (List.cons_ne_nil c cs)
  have htext : ∀ rest, d.positional.toList ++ rest =
      '0' :: '.' :: (List.replicate (-d.point).toNat '0' ++ d.digits ++ rest) := by
    intro rest
    simp only [Digits.positional, if_pos hsmall, String.toList_append, String.toList_ofList]
    rfl
  have hvalue : ofDigits ([0] ++ (List.replicate (-d.point).toNat '0' ++ d.digits).map digitOf) =
      Nat.ofDigitChars 10 d.digits 0 := by
    change ofDigits ((List.replicate (-d.point).toNat '0' ++ d.digits).map digitOf) = _
    rw [ofDigits_map, Nat.ofDigitChars_append, Nat.ofDigitChars_replicate_zero, Nat.mul_zero]
  refine ⟨Nat.ofDigitChars 10 d.digits 0,
    0 - (List.replicate (-d.point).toNat '0' ++ d.digits).length, ?_, fun rest hrest negative => ?_⟩
  · rw [Digits.value, List.length_append, List.length_replicate]
    congr 2
    omega
  · rw [htext, readNumber_float readWhole_zero
      (readFraction_digits hsome hdigits fun d hd => (hrest d hd).1) (readExponent_none hrest)
      (Or.inl (by simpa using hsome)), hvalue, Option.getD_none, List.length_map]

/-- Digits around the point, filled with zeros where there are none. -/
theorem positional_split (hhead : d.digits = c :: cs) (hdigits : AllDigits d.digits)
    (hlarge : 0 < d.point) : ∃ whole fraction,
      d.positional.toList = c :: whole ++ '.' :: fraction ∧ AllDigits (c :: whole) ∧
        AllDigits fraction ∧ fraction ≠ [] ∧
          (Nat.ofDigitChars 10 (c :: whole ++ fraction) 0 : ℚ) *
            (10 : ℚ) ^ (-(fraction.length : Int)) = d.value := by
  have hpoint : 0 < d.point.toNat := by omega
  simp only [Digits.positional, if_neg (not_le.mpr hlarge), Digits.value]
  rcases Nat.lt_or_ge d.point.toNat d.digits.length with hinside | hbehind
  · have hfilled : (d.digits.take d.point.toNat).length = d.point.toNat := by
      rw [List.length_take]
      omega
    have hback : d.digits.drop d.point.toNat ≠ [] := by
      rw [ne_eq, List.drop_eq_nil_iff]
      omega
    have hfront : d.digits.take d.point.toNat = c :: cs.take (d.point.toNat - 1) := by
      rw [hhead, List.take_cons hpoint]
    refine ⟨cs.take (d.point.toNat - 1), d.digits.drop d.point.toNat, ?_, ?_, ?_, hback, ?_⟩
    · rw [hfilled, Nat.sub_self, List.replicate_zero, List.append_nil, hfront]
      simp [hback]
    · rw [← hfront]
      exact hdigits.of_subset (List.take_subset _ _)
    · exact hdigits.of_subset (List.drop_subset _ _)
    · rw [← hfront, List.take_append_drop, List.length_drop]
      congr 2
      omega
  · have hfront : d.digits.take d.point.toNat = d.digits := List.take_of_length_le hbehind
    have hback : d.digits.drop d.point.toNat = [] := List.drop_of_length_le hbehind
    rw [hfront, hback, hhead]
    refine ⟨cs ++ List.replicate (d.point.toNat - d.digits.length) '0', ['0'], ?_, ?_, ?_,
      List.cons_ne_nil _ _, ?_⟩
    · simp [hhead]
    · rw [← List.cons_append, ← hhead]
      exact hdigits.append (AllDigits.zeros _)
    · exact AllDigits.zeros 1
    · have hzeros : c :: (cs ++ List.replicate (d.point.toNat - d.digits.length) '0') ++ ['0'] =
          d.digits ++ List.replicate (d.point.toNat - d.digits.length + 1) '0' := by
        rw [hhead, List.replicate_succ']
        simp
      rw [hzeros, Nat.ofDigitChars_append, Nat.ofDigitChars_replicate_zero, ← hhead, Nat.cast_mul,
        mul_comm, ← mul_assoc, mul_comm, Nat.cast_pow, Nat.cast_ofNat, ← zpow_natCast,
        ← zpow_add₀ (by norm_num)]
      congr 2
      rw [List.length_singleton]
      omega

/-- Digits in plain notation are read back. -/
theorem readsAs_positional (hproper : d.Proper) : ReadsAs d.positional.toList d.value := by
  rcases Int.lt_or_le 0 d.point with hlarge | hsmall
  · obtain ⟨c, cs, hhead, hc⟩ := hproper.head
    obtain ⟨whole, fraction, htext, hwhole, hfraction, hsome, hvalue⟩ :=
      positional_split hhead hproper.digits hlarge
    refine ⟨_, _, hvalue, fun rest hrest negative => ?_⟩
    rw [htext, show c :: whole ++ '.' :: fraction ++ rest = c :: whole ++ '.' :: (fraction ++ rest)
      by simp, readNumber_point hc hwhole hsome hfraction hrest]
  · exact readsAs_fraction hproper hsmall

/-- A digit and an exponent. -/
theorem readsAs_digit_power (hc : c ≠ '0') (hfirst : AllDigits [c]) (exponent : Int) :
    ReadsAs (c :: 'e' :: (exponentText exponent).toList)
      (Nat.ofDigitChars 10 [c] 0 * (10 : ℚ) ^ exponent) := by
  refine ⟨Nat.ofDigitChars 10 [c] 0, exponent, rfl, fun rest hrest negative => ?_⟩
  have hletter : ∀ a, ('e' :: ((exponentText exponent).toList ++ rest)).head? = some a →
      a.isDigit = false := by
    rintro _ ⟨⟩
    rfl
  rw [List.cons_append, List.cons_append, ← List.singleton_append,
    readNumber_float (readWhole_digits hc hfirst hletter) (readFraction_none (by rintro ⟨⟩))
      (readExponent_exponentText exponent hrest) (Or.inr (Option.some_ne_none _)),
    List.append_nil, ofDigits_map, Option.getD_some]
  simp

/-- A digit before the point, digits behind it and an exponent. -/
theorem readsAs_point_power {fraction : List Char} (hc : c ≠ '0') (hfirst : AllDigits [c])
    (hsome : fraction ≠ []) (hdigits : AllDigits fraction) (exponent : Int) :
    ReadsAs (c :: '.' :: fraction ++ 'e' :: (exponentText exponent).toList)
      (Nat.ofDigitChars 10 (c :: fraction) 0 * (10 : ℚ) ^ (exponent - fraction.length)) := by
  refine ⟨_, _, rfl, fun rest hrest negative => ?_⟩
  have hpoint : ∀ a, ('.' :: (fraction ++ 'e' :: ((exponentText exponent).toList ++
      rest))).head? = some a → a.isDigit = false := by
    rintro _ ⟨⟩
    rfl
  have hletter : ∀ a, ('e' :: ((exponentText exponent).toList ++ rest)).head? = some a →
      a.isDigit = false := by
    rintro _ ⟨⟩
    rfl
  have htext : c :: '.' :: fraction ++ 'e' :: (exponentText exponent).toList ++ rest =
      [c] ++ '.' :: (fraction ++ 'e' :: ((exponentText exponent).toList ++ rest)) := by
    simp
  rw [htext, readNumber_float (readWhole_digits hc hfirst hpoint)
    (readFraction_digits hsome hdigits hletter) (readExponent_exponentText exponent hrest)
    (Or.inr (Option.some_ne_none _)), ← List.map_append, ofDigits_map, List.length_map,
    Option.getD_some, List.singleton_append]

/-- A zero behind the point does not change the number. -/
theorem ofDigitChars_zero_behind (c : Char) (power : Int) :
    (Nat.ofDigitChars 10 [c, '0'] 0 : ℚ) * (10 : ℚ) ^ (power - 1) =
      Nat.ofDigitChars 10 [c] 0 * (10 : ℚ) ^ power := by
  have hzeros : Nat.ofDigitChars 10 [c, '0'] 0 = 10 ^ 1 * Nat.ofDigitChars 10 [c] 0 := by
    rw [show [c, '0'] = [c] ++ List.replicate 1 '0' from rfl, Nat.ofDigitChars_append,
      Nat.ofDigitChars_replicate_zero]
  have hpower : (10 : ℚ) ^ power = 10 * (10 : ℚ) ^ (power - 1) := by
    rw [← zpow_one_add₀ (by norm_num)]
    congr 1
    omega
  rw [hzeros, hpower]
  push_cast
  ring

/-- Digits with an exponent are read back. -/
theorem readsAs_scientific (style : Style) (hproper : d.Proper) :
    ReadsAs (d.scientific style).toList d.value := by
  obtain ⟨c, cs, hhead, hc⟩ := hproper.head
  have hdigits := hproper.digits
  rw [hhead] at hdigits
  have hfirst : AllDigits [c] := hdigits.of_subset (by simp)
  rw [Digits.value, hhead]
  cases cs with
  | nil =>
      cases hzero : style.pointInPower with
      | false =>
          have htext : (d.scientific style).toList =
              c :: 'e' :: (exponentText (d.point - 1)).toList := by
            simp [Digits.scientific, hhead, hzero]
          rw [htext]
          exact readsAs_digit_power hc hfirst (d.point - 1)
      | true =>
          have htext : (d.scientific style).toList =
              c :: '.' :: ['0'] ++ 'e' :: (exponentText (d.point - 1)).toList := by
            simp [Digits.scientific, hhead, hzero]
          have hread := readsAs_point_power hc hfirst (List.cons_ne_nil _ _) (AllDigits.zeros 1)
            (d.point - 1)
          rw [htext, List.length_singleton]
          exact ofDigitChars_zero_behind c (d.point - 1) ▸ hread
  | cons b bs =>
      have htext : (d.scientific style).toList =
          c :: '.' :: (b :: bs) ++ 'e' :: (exponentText (d.point - 1)).toList := by
        simp [Digits.scientific, hhead]
      have hpower : d.point - (c :: b :: bs).length = d.point - 1 - (b :: bs).length := by
        simp only [List.length_cons]
        omega
      rw [htext, hpower]
      exact readsAs_point_power hc hfirst (List.cons_ne_nil b bs)
        (hdigits.of_subset (List.subset_cons_self c (b :: bs))) (d.point - 1)

/-- Digits are read back from either notation. -/
theorem readsAs_write (style : Style) (hproper : d.Proper) :
    ReadsAs (d.write style).toList d.value := by
  simp only [Digits.write, hproper.nonempty, Bool.false_eq_true, if_false]
  split
  · exact readsAs_positional hproper
  · exact readsAs_scientific style hproper

theorem readNumber_write (hrep : Representable significand exponent)
    (hspell : d.Spell significand exponent) (hrest : EndsNumber rest) :
    readNumber negative ((d.write documentStyle).toList ++ rest) = .ok (.float (withSign negative
      (Float.ofBits (UInt64.ofNat (sizeBits significand exponent)))), rest) := by
  obtain ⟨n, power, hvalue, hread⟩ := readsAs_write documentStyle hspell.toProper
  rw [hread rest hrest, hrep.ofDecimal_eq (hvalue ▸ hspell.value)]

theorem takeWord_of_ne {a b : Char} {word : List Char} (hne : b ≠ a) :
    takeWord (a :: word) (b :: cs) = none := by
  rw [takeWord, if_neg]
  rw [List.length_cons, List.take_succ_cons]
  exact fun h => hne (List.cons.inj h).1

theorem readWord_digit (hc : c.isDigit = true) : readWord (c :: cs) = none := by
  have hword : ∀ word : String, (∃ a as, word.toList = a :: as ∧ a.isDigit = false) →
      takeWord word.toList (c :: cs) = none := by
    rintro word ⟨a, as, hword, ha⟩
    rw [hword, takeWord_of_ne (ne_of_isDigit hc ha)]
  simp only [readWord, List.findSome?_cons, List.findSome?_nil,
    hword "null" ⟨_, _, rfl, rfl⟩, hword "true" ⟨_, _, rfl, rfl⟩, hword "false" ⟨_, _, rfl, rfl⟩,
    hword "NaN" ⟨_, _, rfl, rfl⟩, hword "Infinity" ⟨_, _, rfl, rfl⟩,
    hword "-Infinity" ⟨_, _, rfl, rfl⟩, Option.map_none]

theorem readWord_minus (hc : c.isDigit = true) : readWord ('-' :: c :: cs) = none := by
  have hword : ∀ word : String, (∃ a as, word.toList = a :: as ∧ a ≠ '-') →
      takeWord word.toList ('-' :: c :: cs) = none := by
    rintro word ⟨a, as, hword, ha⟩
    rw [hword, takeWord_of_ne ha.symm]
  have hlast : takeWord "-Infinity".toList ('-' :: c :: cs) = none := by
    rw [takeWord, if_neg]
    intro h
    obtain ⟨hletter, -⟩ := List.cons.inj (List.cons.inj h).2
    rw [hletter] at hc
    exact Bool.false_ne_true hc
  simp only [readWord, List.findSome?_cons, List.findSome?_nil,
    hword "null" ⟨_, _, rfl, by decide⟩, hword "true" ⟨_, _, rfl, by decide⟩,
    hword "false" ⟨_, _, rfl, by decide⟩, hword "NaN" ⟨_, _, rfl, by decide⟩,
    hword "Infinity" ⟨_, _, rfl, by decide⟩, hlast, Option.map_none]

theorem readAtom_digit (hc : c.isDigit = true) :
    readAtom (c :: cs) = readNumber false (c :: cs) := by
  rw [readAtom, readWord_digit hc]
  · rintro rest h
    exact ne_of_isDigit hc rfl (List.cons.inj h).1
  · rintro rest h
    exact ne_of_isDigit hc rfl (List.cons.inj h).1

theorem readAtom_minus (hc : c.isDigit = true) :
    readAtom ('-' :: c :: cs) = readNumber true (c :: cs) := by
  rw [readAtom, readWord_minus hc]

/-- A sign before digits is the sign of the number. -/
theorem readAtom_signed {text : List Char} {answer : Bool → Except Fault (Value × List Char)}
    (hhead : ∃ c cs, text = c :: cs ∧ c.isDigit = true)
    (hread : ∀ negative, readNumber negative (text ++ rest) = answer negative) (negative : Bool) :
    readAtom ((if negative then '-' :: text else text) ++ rest) = answer negative := by
  obtain ⟨c, cs, rfl, hc⟩ := hhead
  cases negative with
  | false => exact (readAtom_digit hc).trans (hread false)
  | true => exact (readAtom_minus hc).trans (hread true)

theorem write_head (style : Style) (hproper : d.Proper) :
    ∃ c cs, (d.write style).toList = c :: cs ∧ c.isDigit = true := by
  obtain ⟨c, cs, hhead, -⟩ := hproper.head
  have hc : c.isDigit = true := hproper.digits c (by simp [hhead])
  simp only [Digits.write, hproper.nonempty, Bool.false_eq_true, if_false]
  split
  · rcases Int.lt_or_le 0 d.point with hlarge | hsmall
    · obtain ⟨whole, fraction, htext, -⟩ := positional_split hhead hproper.digits hlarge
      exact ⟨c, _, htext, hc⟩
    · rw [Digits.positional, if_pos hsmall, String.toList_append]
      exact ⟨'0', _, rfl, rfl⟩
  · simp only [Digits.scientific, hhead, String.toList_append, List.take_succ_cons,
      String.toList_ofList]
    exact ⟨c, _, rfl, hc⟩

theorem readNumber_zero (hrest : EndsNumber rest) :
    readNumber negative ("0.0".toList ++ rest) = .ok (.float (withSign negative
      (Float.ofBits (UInt64.ofNat (sizeBits 0 (-1074))))), rest) := by
  have hdigits : AllDigits ['0'] := AllDigits.zeros 1
  change readNumber negative ('0' :: '.' :: (['0'] ++ rest)) = _
  rw [readNumber_float readWhole_zero (readFraction_digits (List.cons_ne_nil _ _) hdigits
    fun d hd => (hrest d hd).1) (readExponent_none hrest) (Or.inl (List.cons_ne_nil _ _))]
  rfl

theorem toList_minus (negative : Prop) [Decidable negative] (text : String) :
    (if negative then "-" ++ text else text).toList =
      if negative then '-' :: text.toList else text.toList := by
  split
  · rw [String.toList_append]
    rfl
  · rfl

/-- The text of a finite double has digits behind its sign, and they are read back. -/
theorem shortest_finite {x : Float} (hparts : partsOf x = .finite negative significand exponent) :
    ∃ text, (shortest documentStyle x).toList = (if negative then '-' :: text else text) ∧
      (∃ c cs, text = c :: cs ∧ c.isDigit = true) ∧
      ∀ rest, EndsNumber rest → ∀ negative, readNumber negative (text ++ rest) =
        .ok (.float (withSign negative
          (Float.ofBits (UInt64.ofNat (sizeBits significand exponent)))), rest) := by
  obtain ⟨hkind, -⟩ := eq_of_partsOf_finite hparts
  simp only [shortest, hparts, toList_minus]
  rcases hkind with ⟨rfl, rfl⟩ | hrep
  · exact ⟨"0.0".toList, rfl, ⟨'0', ['.', '0'], rfl, rfl⟩, fun _ hrest _ => readNumber_zero hrest⟩
  · have hspell := hrep.spell_shortestDigits
    rw [if_neg hrep.positive.ne']
    exact ⟨_, rfl, write_head documentStyle hspell.toProper,
      fun _ hrest _ => readNumber_write hrep hspell hrest⟩

/-- Every double is read back. -/
theorem readAtom_shortest (x : Float) (hrest : EndsNumber rest) :
    readAtom ((shortest documentStyle x).toList ++ rest) = .ok (.float x, rest) := by
  cases hparts : partsOf x with
  | nan =>
      rw [shortest, hparts, eq_of_partsOf_nan hparts]
      rfl
  | infinite negative =>
      rw [shortest, hparts, eq_of_partsOf_infinite hparts]
      cases negative <;> rfl
  | finite negative significand exponent =>
      obtain ⟨text, htext, hhead, hread⟩ := shortest_finite hparts
      obtain ⟨-, hx⟩ := eq_of_partsOf_finite hparts
      rw [htext, readAtom_signed hhead (hread rest hrest), ← hx]

theorem digitsOf_starts (n : Nat) : ∃ c cs, digitsOf n = c :: cs ∧ c.isDigit = true := by
  cases hdigits : digitsOf n with
  | nil => exact absurd hdigits Nat.toDigits_ne_nil
  | cons c cs => exact ⟨c, cs, rfl, digitsOf_allDigits n c (by simp [hdigits])⟩

theorem toList_toString (n : Int) : (toString n).toList =
    if decide (n < 0) then '-' :: digitsOf n.natAbs else digitsOf n.natAbs := by
  cases n with
  | ofNat m => exact Nat.toList_repr
  | negSucc m =>
      change ("-" ++ Nat.repr (m + 1)).toList = _
      rw [String.toList_append, Nat.toList_repr, if_pos (decide_eq_true (Int.negSucc_lt_zero m))]
      rfl

/-- A whole number is read back unless it has more digits than the limit. -/
theorem readAtom_toString (n : Int) (hrest : EndsNumber rest) :
    readAtom ((toString n).toList ++ rest) =
      if n.natAbs < 10 ^ maxDigits then .ok (.int n, rest) else .error .malformedNumber := by
  have hlimit : maxDigits < (digitsOf n.natAbs).length ↔ ¬ n.natAbs < 10 ^ maxDigits := by
    rw [← Nat.length_toDigits_le_iff (by decide) (by decide), Nat.not_le]
    rfl
  have hread : ∀ negative, readNumber negative (digitsOf n.natAbs ++ rest) =
      if n.natAbs < 10 ^ maxDigits then .ok (.int (signed negative n.natAbs), rest)
      else .error .malformedNumber := by
    intro negative
    have hpoint : rest.head? ≠ some '.' := fun h => (hrest '.' h).2.1 rfl
    simp only [readNumber, readWhole_digitsOf n.natAbs fun d hd => (hrest d hd).1,
      readFraction_none hpoint, readExponent_none hrest, List.isEmpty_nil, Option.isNone_none,
      Bool.and_self, if_true, List.length_map, hlimit, ofDigits_digitsOf, ite_not]
    rfl
  rw [toList_toString, readAtom_signed (digitsOf_starts n.natAbs) hread, signed_natAbs]

end PhotoCatalog.Json
