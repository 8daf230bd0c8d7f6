import PhotoCatalog.Catalog.Truth
import PhotoCatalog.Proofs.Pattern.Agreement
import PhotoCatalog.Query.Statement

/-!
One token, two tests.  The catalog checks the condition of a token, and the program matches the same
token against a detected value.  What satisfies the condition the program matches as well, so that
nothing found is lost to letter case; between ASCII texts the two tests give the same answer, unless
the pattern is too long for the catalog.
-/

namespace PhotoCatalog.Query

open PhotoCatalog.Catalog PhotoCatalog.Pattern PhotoCatalog.Text

variable {s : Subject} {column token value : String}

theorem ofToken_of_wildcards (hwild : hasWildcards token = true) :
    (LikePattern.ofToken token false).exact = false ∧
      (LikePattern.ofToken token false).pattern = likeForm token := by
  simp [LikePattern.ofToken, effectiveToken, hwild, likeForm]

theorem ofToken_of_plain (hplain : hasWildcards token = false) :
    (LikePattern.ofToken token false).exact = true ∧
      (LikePattern.ofToken token false).pattern = token := by
  simp [LikePattern.ofToken, effectiveToken, hplain]

/-- A token with wildcards is compared through its `LIKE` pattern, which must not be too long. -/
theorem satisfies_of_wildcards (hwild : hasWildcards token = true)
    (hcell : s.cell column = .text value) :
    s.satisfies (tokenCondition column token false) =
      if patternLimit < (likeForm token).utf8ByteSize then .error (.query .patternTooLong)
      else .ok (some (likeMatch (likeForm token) value)) := by
  obtain ⟨hexact, hpattern⟩ := ofToken_of_wildcards hwild
  simp only [tokenCondition, hexact, hpattern, Bool.false_eq_true, if_false]
  rw [Subject.satisfies, Subject.isLike, hcell]
  rfl

/-- A token without wildcards is compared up to the case of ASCII letters. -/
theorem satisfies_of_plain (hplain : hasWildcards token = false)
    (hcell : s.cell column = .text value) (haffinity : s.affinity column = .text) :
    s.satisfies (tokenCondition column token false) = .ok (some (equalNoCase value token)) := by
  obtain ⟨hexact, hpattern⟩ := ofToken_of_plain hplain
  simp only [tokenCondition, hexact, hpattern, if_true]
  rw [Subject.satisfies]
  simp only [Cell.ofValue, Subject.equalsText, if_true, hcell, haffinity]
  rfl

/-- What satisfies the condition of a token the token matches, unless `LIKE` takes two characters of
them for one.  Between ASCII texts the condition has the answer of the match, or the pattern is too
long. -/
theorem tokenCondition_agrees (hcell : s.cell column = .text value)
    (haffinity : s.affinity column = .text) (htoken : IsNulFree token)
    (hvalue : IsNulFree value) :
    ((hasWildcards token = true → Distinguished token value) →
        s.satisfies (tokenCondition column token false) = .ok (some true) →
        wildcardMatch token (some value) = true) ∧
      (IsAscii token → IsAscii value →
        s.satisfies (tokenCondition column token false) =
          if hasWildcards token = true ∧ patternLimit < (likeForm token).utf8ByteSize then
            .error (.query .patternTooLong)
          else .ok (some (wildcardMatch token (some value)))) := by
  cases hwild : hasWildcards token with
  | true =>
      rw [satisfies_of_wildcards hwild hcell]
      constructor
      · intro hread hholds
        split at hholds
        · nomatch hholds
        · have hlike : likeMatch (likeForm token) value = true :=
            Option.some.inj (Except.ok.inj hholds)
          exact wildcardMatch_of_likeMatch hwild htoken hvalue (hread rfl) hlike
      · intro htokenAscii hvalueAscii
        rw [wildcardMatch_eq_likeMatch hwild htoken hvalue htokenAscii hvalueAscii]
        exact if_congr (and_iff_right rfl).symm rfl rfl
  | false =>
      rw [satisfies_of_plain hwild hcell haffinity]
      constructor
      · intro _ hholds
        have hequal : equalNoCase value token = true := Option.some.inj (Except.ok.inj hholds)
        exact wildcardMatch_of_equalNoCase hwild htoken hvalue hequal
      · intro htokenAscii hvalueAscii
        rw [wildcardMatch_eq_equalNoCase hwild htoken hvalue htokenAscii hvalueAscii]
        simp only [Bool.false_eq_true, false_and, if_false]

/-- A person of this name. -/
def namedRow (name : String) : ChildRow := ⟨1, .text name, .null, []⟩

theorem tokenCondition_agrees_on_special_characters :
    let token := "an?a [1]*50%\\_*"
    let value := "Anna [1]\n50%\\_X"
    let s := (namedRow value).subject .people
    (IsNulFree token ∧ IsNulFree value ∧ IsAscii token ∧ IsAscii value) ∧
      s.satisfies (tokenCondition "name" token false) = .ok (some true) ∧
      wildcardMatch token (some value) = true := by
  intro token value s
  have htoken : IsNulFree token := by decide +kernel
  have hvalue : IsNulFree value := by decide +kernel
  have htokenAscii : IsAscii token := by decide +kernel
  have hvalueAscii : IsAscii value := by decide +kernel
  have hmatch : wildcardMatch token (some value) = true := by decide +kernel
  have hshort : ¬ (hasWildcards token = true ∧ patternLimit < (likeForm token).utf8ByteSize) := by
    decide +kernel
  obtain ⟨hsound, hsame⟩ := @tokenCondition_agrees s "name" token value rfl rfl htoken hvalue
  have hholds : s.satisfies (tokenCondition "name" token false) = .ok (some true) := by
    rw [hsame htokenAscii hvalueAscii, if_neg hshort, hmatch]
  refine ⟨⟨htoken, hvalue, htokenAscii, hvalueAscii⟩, hholds, ?_⟩
  exact hsound (fun _ => distinguished_of_ascii htokenAscii hvalueAscii) hholds

/-- Only asterisks, and more of them than the catalog accepts in a pattern. -/
def longToken : String := String.ofList (List.replicate (patternLimit + 1) '*')

theorem likeForm_longToken :
    likeForm longToken = String.ofList (List.replicate (patternLimit + 1) '%') := by
  rw [likeForm, longToken, String.toList_ofList, List.flatMap_replicate]
  exact congrArg String.ofList (List.flatten_replicate_singleton)

theorem longToken_chars : ∀ c ∈ longToken.toList, c = '*' := by
  intro c hc
  rw [longToken, String.toList_ofList] at hc
  exact List.eq_of_mem_replicate hc

theorem longToken_hasWildcards : hasWildcards longToken = true := by
  rw [hasWildcards, longToken, String.toList_ofList, List.any_replicate]
  decide

theorem longToken_tooLong : patternLimit < (likeForm longToken).utf8ByteSize := by
  rw [likeForm_longToken, utf8ByteSize_eq_length, String.toList_ofList, List.length_replicate]
  · exact Nat.lt_succ_self patternLimit
  · intro c hc
    rw [String.toList_ofList] at hc
    rw [List.eq_of_mem_replicate hc]
    decide

/-- Two noncharacters are the replacement character to `LIKE`, and a long pattern has no answer. -/
theorem like_misreads_noncharacters :
    (¬ ∀ (s : Subject) column token value, s.cell column = .text value →
      s.affinity column = .text → IsNulFree token → IsNulFree value →
      s.satisfies (tokenCondition column token false) = .ok (some true) →
      wildcardMatch token (some value) = true) ∧
    ¬ ∀ (s : Subject) column token value, s.cell column = .text value →
      s.affinity column = .text → IsNulFree token → IsNulFree value → IsAscii token →
      IsAscii value → s.satisfies (tokenCondition column token false) =
        .ok (some (wildcardMatch token (some value))) := by
  constructor
  · intro hall
    have hholds : ((namedRow "\uFFFE").subject .people).satisfies
        (tokenCondition "name" "\uFFFD*" false) = .ok (some true) := by
      have hlike : likeMatch (likeForm "\uFFFD*") "\uFFFE" = true := by decide +kernel
      rw [satisfies_of_wildcards (by decide) rfl, if_neg (by decide +kernel), hlike]
    have hmatch := hall _ "name" "\uFFFD*" "\uFFFE" rfl rfl (by decide +kernel)
      (by decide +kernel) hholds
    revert hmatch
    decide +kernel
  · intro hall
    have hanswer := hall ((namedRow "a").subject .people) "name" longToken "a" rfl rfl
      (fun c hc => longToken_chars c hc ▸ by decide) (by decide +kernel)
      (fun c hc => longToken_chars c hc ▸ by decide) (by decide +kernel)
    have hrow : ((namedRow "a").subject .people).cell "name" = .text "a" := rfl
    rw [satisfies_of_wildcards longToken_hasWildcards hrow, if_pos longToken_tooLong] at hanswer
    nomatch hanswer

end PhotoCatalog.Query
