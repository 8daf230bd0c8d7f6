import Mathlib.Data.List.TakeWhile
import PhotoCatalog.Pattern.Like
import PhotoCatalog.Proofs.Pattern.Matching
import PhotoCatalog.Proofs.Text.Case

/-!
Two matchers of one token.  The `LIKE` pattern of a shell pattern spells the same elements as the
shell pattern itself, whatever characters have to be escaped in it, so the catalog's matcher differs
from the program's own one only in which characters it takes for the same.
-/

namespace PhotoCatalog.Pattern

open PhotoCatalog.Text

theorem likeElements_escaped (d : Char) (rest : List Char) :
    likeElements (escapeChar :: d :: rest) = (likeElements rest).map (.literal d :: ·) := by
  rw [likeElements.eq_def]
  exact if_pos rfl

theorem likeElements_cons {c : Char} (hc : c ≠ escapeChar) (rest : List Char) :
    likeElements (c :: rest) = (likeElements rest).map
      ((if c = '%' then .anyRun else if c = '_' then .anyChar else .literal c) :: ·) := by
  rw [likeElements.eq_def]
  exact if_neg hc

theorem likeElements_likeOfShellChar (c : Char) (rest : List Char) :
    likeElements (likeOfShellChar c ++ rest) =
      (likeElements rest).map (Element.ofShellChar c :: ·) := by
  rw [likeOfShellChar, Element.ofShellChar]
  by_cases hrun : c = '*'
  · rw [if_pos hrun, if_pos hrun]
    exact likeElements_cons (by decide) rest
  by_cases hone : c = '?'
  · rw [if_neg hrun, if_neg hrun, if_pos hone, if_pos hone]
    exact likeElements_cons (by decide) rest
  rw [if_neg hrun, if_neg hrun, if_neg hone, if_neg hone, escapeLikeChar]
  by_cases hspecial : c = escapeChar ∨ c = '%' ∨ c = '_'
  · rw [if_pos hspecial]
    exact likeElements_escaped c rest
  · obtain ⟨hescape, hpercent, hunderscore⟩ : c ≠ escapeChar ∧ c ≠ '%' ∧ c ≠ '_' := by
      simpa only [not_or] using hspecial
    rw [if_neg hspecial, List.singleton_append, likeElements_cons hescape, if_neg hpercent,
      if_neg hunderscore]

/-- The `LIKE` form of a shell pattern spells the elements of the shell pattern. -/
theorem likeElements_flatMap (token : List Char) :
    likeElements (token.flatMap likeOfShellChar) = some (shellElements token) := by
  induction token with
  | nil => rfl
  | cons c token ih =>
      rw [List.flatMap_cons, likeElements_likeOfShellChar, ih]
      rfl

theorem beforeNul_eq_self {cs : List Char} (hcs : ∀ c ∈ cs, c.toNat ≠ 0) : beforeNul cs = cs := by
  rw [beforeNul, List.takeWhile_eq_self_iff]
  exact fun c hc => decide_eq_true (hcs c hc)

/-- A shell pattern without NUL has a `LIKE` form without NUL. -/
theorem toNat_ne_zero_of_mem_likeOfShellChar {c d : Char} (hc : c.toNat ≠ 0)
    (hd : d ∈ likeOfShellChar c) : d.toNat ≠ 0 := by
  rw [likeOfShellChar, escapeLikeChar] at hd
  have hcases : d = '%' ∨ d = '_' ∨ d = escapeChar ∨ d = c := by
    split at hd
    · exact Or.inl (List.mem_singleton.mp hd)
    · split at hd
      · exact Or.inr (Or.inl (List.mem_singleton.mp hd))
      · split at hd
        · rcases List.mem_cons.mp hd with hd | hd
          · exact Or.inr (Or.inr (Or.inl hd))
          · exact Or.inr (Or.inr (Or.inr (List.mem_singleton.mp hd)))
        · exact Or.inr (Or.inr (Or.inr (List.mem_singleton.mp hd)))
  rcases hcases with rfl | rfl | rfl | rfl
  · decide
  · decide
  · decide
  · exact hc

/-- What `LIKE` reads as an ASCII character is that character. -/
theorem likeChar_eq_iff {c d : Char} (hd : d.toNat < 128) : likeChar c = d ↔ c = d := by
  rw [likeChar]
  by_cases hnon : c.toNat = 0xFFFE ∨ c.toNat = 0xFFFF
  · rw [if_pos hnon]
    constructor
    · rintro rfl
      exact absurd hd (by decide)
    · rintro rfl
      omega
  · rw [if_neg hnon]

theorem likeChar_toNat_lt_iff {c : Char} : (likeChar c).toNat < 128 ↔ c.toNat < 128 := by
  constructor
  · intro hlt
    rwa [(likeChar_eq_iff hlt).mp rfl]
  · intro hlt
    rwa [(likeChar_eq_iff hlt).mpr rfl]

/-- The characters with a meaning in patterns are ASCII, so they are read as they are. -/
theorem map_likeChar_likeOfShellChar (c : Char) :
    (likeOfShellChar c).map likeChar = likeOfShellChar (likeChar c) := by
  rw [likeOfShellChar, likeOfShellChar, escapeLikeChar, escapeLikeChar]
  simp only [@likeChar_eq_iff c '*' (by decide), @likeChar_eq_iff c '?' (by decide),
    @likeChar_eq_iff c '%' (by decide), @likeChar_eq_iff c '_' (by decide),
    @likeChar_eq_iff c escapeChar (by decide)]
  split
  · rfl
  split
  · rfl
  split
  · rfl
  · rfl

theorem ofShellChar_likeChar (c : Char) :
    Element.ofShellChar (likeChar c) = (Element.ofShellChar c).map likeChar := by
  rw [Element.ofShellChar, Element.ofShellChar]
  simp only [@likeChar_eq_iff c '*' (by decide), @likeChar_eq_iff c '?' (by decide)]
  split
  · rfl
  split
  · rfl
  · rfl

/-- The `LIKE` pattern of a token with wildcards. -/
def likeForm (token : String) : String := String.ofList (token.toList.flatMap likeOfShellChar)

variable {token value : String}

theorem likeChars_likeForm (htoken : IsNulFree token) :
    likeChars (likeForm token) = (token.toList.map likeChar).flatMap likeOfShellChar := by
  have hfree : ∀ c ∈ token.toList.flatMap likeOfShellChar, c.toNat ≠ 0 := by
    intro d hd
    obtain ⟨c, hc, hd⟩ := List.mem_flatMap.mp hd
    exact toNat_ne_zero_of_mem_likeOfShellChar (htoken c hc) hd
  rw [likeChars, likeForm, String.toList_ofList, beforeNul_eq_self hfree, List.map_flatMap,
    List.flatMap_map]
  exact congrArg (token.toList.flatMap ·) (funext map_likeChar_likeOfShellChar)

/-- The `LIKE` form of a shell pattern matches where the elements of the shell pattern take the
value, read as `LIKE` does and compared up to the case of ASCII letters. -/
theorem likeMatch_likeForm_iff (htoken : IsNulFree token) (hvalue : IsNulFree value) :
    likeMatch (likeForm token) value = true ↔
      Takes (fun c d => sameAscii (likeChar c) (likeChar d)) (shellElements token.toList)
        value.toList := by
  have helements : shellElements (token.toList.map likeChar) =
      (shellElements token.toList).map (Element.map likeChar) := by
    rw [shellElements, shellElements, List.map_map, List.map_map]
    exact congrArg (token.toList.map ·) (funext ofShellChar_likeChar)
  rw [likeMatch, likeAccepts, likeChars_likeForm htoken, likeElements_flatMap, likeChars,
    beforeNul_eq_self hvalue, helements]
  exact matchesElements_iff.trans takes_map_iff

theorem mem_of_literal_mem_shellElements {c : Char} {cs : List Char}
    (hc : .literal c ∈ shellElements cs) : c ∈ cs := by
  obtain ⟨d, hd, hsame⟩ := List.mem_map.mp hc
  rw [Element.ofShellChar] at hsame
  split at hsame
  · nomatch hsame
  split at hsame
  · nomatch hsame
  · rwa [← Element.literal.inj hsame]

/-- `LIKE` reads no character of the token and another one of the value as the same. -/
def Distinguished (token value : String) : Prop :=
  ∀ c ∈ token.toList, ∀ d ∈ value.toList, likeChar c = likeChar d → c = d

theorem distinguished_of_ascii (htoken : IsAscii token) (hvalue : IsAscii value) :
    Distinguished token value := by
  intro c hc d hd hread
  rwa [(likeChar_eq_iff (htoken c hc)).mpr rfl, (likeChar_eq_iff (hvalue d hd)).mpr rfl] at hread

/-- `LIKE` compares characters up to the case of ASCII letters, unless it misreads one of them. -/
theorem sameAscii_likeChar {c d : Char} (hread : likeChar c = likeChar d → c = d) :
    sameAscii (likeChar c) (likeChar d) = sameAscii c d := by
  rw [Bool.eq_iff_iff, sameAscii, sameAscii, beq_iff_eq, beq_iff_eq]
  constructor
  · intro hsame
    have hboth : c.toNat < 128 ↔ d.toNat < 128 := by
      rw [← likeChar_toNat_lt_iff, ← asciiLower_toNat_lt_iff, hsame, asciiLower_toNat_lt_iff,
        likeChar_toNat_lt_iff]
    by_cases hc : c.toNat < 128
    · rwa [(likeChar_eq_iff hc).mpr rfl, (likeChar_eq_iff (hboth.mp hc)).mpr rfl] at hsame
    · rw [asciiLower_eq_self (mt likeChar_toNat_lt_iff.mp hc),
        asciiLower_eq_self (mt likeChar_toNat_lt_iff.mp (mt hboth.mpr hc))] at hsame
      rw [hread hsame]
  · intro hsame
    have hboth : c.toNat < 128 ↔ d.toNat < 128 := by
      rw [← asciiLower_toNat_lt_iff, hsame, asciiLower_toNat_lt_iff]
    by_cases hc : c.toNat < 128
    · rwa [(likeChar_eq_iff hc).mpr rfl, (likeChar_eq_iff (hboth.mp hc)).mpr rfl]
    · rw [asciiLower_eq_self hc, asciiLower_eq_self (mt hboth.mpr hc)] at hsame
      rw [hsame]

theorem sameKey_of_sameAscii_likeChar {c d : Char} (hread : likeChar c = likeChar d → c = d)
    (hsame : sameAscii (likeChar c) (likeChar d) = true) : sameKey c d = true := by
  rw [sameAscii_likeChar hread] at hsame
  exact sameKey_of_sameAscii hsame

/-- What the `LIKE` form of a token with wildcards matches, the token itself matches. -/
theorem wildcardMatch_of_likeMatch (hwild : hasWildcards token = true) (htoken : IsNulFree token)
    (hvalue : IsNulFree value) (hread : Distinguished token value)
    (hlike : likeMatch (likeForm token) value = true) :
    wildcardMatch token (some value) = true := by
  simp only [wildcardMatch, if_pos hwild]
  rw [matchesElements_iff]
  apply ((likeMatch_likeForm_iff htoken hvalue).mp hlike).imp
  intro c d hc hd hsame
  exact sameKey_of_sameAscii_likeChar (hread c (mem_of_literal_mem_shellElements hc) d hd) hsame

theorem wildcardMatch_eq_likeMatch (hwild : hasWildcards token = true) (htoken : IsNulFree token)
    (hvalue : IsNulFree value) (htokenAscii : IsAscii token) (hvalueAscii : IsAscii value) :
    wildcardMatch token (some value) =
      likeMatch (likeForm token) value := by
  rw [Bool.eq_iff_iff]
  constructor
  · intro hmatch
    simp only [wildcardMatch, if_pos hwild] at hmatch
    rw [likeMatch_likeForm_iff htoken hvalue]
    apply (matchesElements_iff.mp hmatch).imp
    intro c d hc hd hsame
    have hascii := htokenAscii c (mem_of_literal_mem_shellElements hc)
    rw [(likeChar_eq_iff hascii).mpr rfl, (likeChar_eq_iff (hvalueAscii d hd)).mpr rfl,
      ← sameKey_eq_sameAscii hascii (hvalueAscii d hd)]
    exact hsame
  · exact wildcardMatch_of_likeMatch hwild htoken hvalue
      (distinguished_of_ascii htokenAscii hvalueAscii)

theorem equalNoCase_iff (htoken : IsNulFree token) (hvalue : IsNulFree value) :
    equalNoCase value token = true ↔ value.utf8ByteSize = token.utf8ByteSize ∧
      value.toList.map asciiLower = token.toList.map asciiLower := by
  rw [equalNoCase, Bool.and_eq_true, beq_iff_eq, beq_iff_eq, beforeNul_eq_self htoken,
    beforeNul_eq_self hvalue]

/-- What equals a token without wildcards up to the case of ASCII letters, the token matches. -/
theorem wildcardMatch_of_equalNoCase (hplain : hasWildcards token = false)
    (htoken : IsNulFree token) (hvalue : IsNulFree value)
    (hequal : equalNoCase value token = true) : wildcardMatch token (some value) = true := by
  obtain ⟨-, hlower⟩ := (equalNoCase_iff htoken hvalue).mp hequal
  simp only [wildcardMatch, hplain, Bool.false_eq_true, if_false, beq_iff_eq]
  exact (flatMap_foldChar_eq hlower).symm

theorem wildcardMatch_eq_equalNoCase (hplain : hasWildcards token = false)
    (htoken : IsNulFree token) (hvalue : IsNulFree value) (htokenAscii : IsAscii token)
    (hvalueAscii : IsAscii value) :
    wildcardMatch token (some value) = equalNoCase value token := by
  rw [Bool.eq_iff_iff]
  constructor
  · intro hmatch
    simp only [wildcardMatch, hplain, Bool.false_eq_true, if_false, beq_iff_eq] at hmatch
    have hlower : token.toList.map asciiLower = value.toList.map asciiLower := by
      rw [← flatMap_foldChar_of_ascii htokenAscii, ← flatMap_foldChar_of_ascii hvalueAscii]
      exact hmatch
    rw [equalNoCase_iff htoken hvalue, utf8ByteSize_eq_length htokenAscii,
      utf8ByteSize_eq_length hvalueAscii]
    refine ⟨?_, hlower.symm⟩
    simpa using congrArg List.length hlower.symm
  · exact wildcardMatch_of_equalNoCase hplain htoken hvalue

theorem toNat_ne_zero_of_asciiLower_eq {c d : Char} (hd : d.toNat ≠ 0)
    (hlower : asciiLower c = asciiLower d) : c.toNat ≠ 0 := by
  have hsame := congrArg Char.toNat hlower
  rw [asciiLower_toNat, asciiLower_toNat] at hsame
  split at hsame <;> split at hsame <;> omega

/-- A token that matches an ASCII text without NUL has no NUL itself. -/
theorem isNulFree_of_wildcardMatch (htoken : IsAscii token) (hvalue : IsAscii value)
    (hnulFree : IsNulFree value) (hmatch : wildcardMatch token (some value) = true) :
    IsNulFree token := by
  intro c hc
  cases hwild : hasWildcards token with
  | true =>
      simp only [wildcardMatch, if_pos hwild] at hmatch
      by_cases hliteral : Element.ofShellChar c = .literal c
      · have hmem : Element.literal c ∈ shellElements token.toList :=
          hliteral ▸ List.mem_map_of_mem hc
        obtain ⟨d, hd, hsame⟩ := (matchesElements_iff.mp hmatch).literal_mem hmem
        rw [sameKey_eq_sameAscii (htoken c hc) (hvalue d hd), sameAscii, beq_iff_eq] at hsame
        exact toNat_ne_zero_of_asciiLower_eq (hnulFree d hd) hsame
      · -- The two wildcards are no NUL either.
        rintro hzero
        have hnul : c = Char.ofNat 0 := by
          rw [← Char.ofNat_toNat c, hzero]
        exact hliteral (hnul ▸ by decide)
  | false =>
      simp only [wildcardMatch, hwild, Bool.false_eq_true, if_false, beq_iff_eq] at hmatch
      have hlower : token.toList.map asciiLower = value.toList.map asciiLower := by
        rw [← flatMap_foldChar_of_ascii htoken, ← flatMap_foldChar_of_ascii hvalue]
        exact hmatch
      obtain ⟨d, hd, hsame⟩ := List.mem_map.mp (hlower ▸ List.mem_map_of_mem hc)
      exact toNat_ne_zero_of_asciiLower_eq (hnulFree d hd) hsame.symm

end PhotoCatalog.Pattern
