import PhotoCatalog.Proofs.Query.TokenAgreement
import PhotoCatalog.Proofs.Query.TokenMeaning

/-!
File addresses among the tokens for paths.  An address becomes the path that it names before anyone
looks for wildcards, so an asterisk or a question mark that the address spells with an escape is a
wildcard of the search; only a path without these two characters is looked for as it stands.
-/

namespace PhotoCatalog.Query

open PhotoCatalog.Address PhotoCatalog.Catalog PhotoCatalog.Pattern PhotoCatalog.Text

/-- The location that a text addresses, apart from the blanks around it: what stands behind the
scheme, without the characters that vanish from addresses. -/
def fileLocation (token : String) : Location :=
  .of (((trimBy isBlank token.toList).drop 5).filter (!vanishes ·))

/-- Characters that `LIKE` takes for the same. -/
def likeSame (c d : Char) : Bool := sameAscii (likeChar c) (likeChar d)

/-- Characters that stand in a text one behind the other, up to what counts as the same. -/
def StandsIn (same : Char → Char → Bool) (cs text : List Char) : Prop :=
  ∃ part, part <:+: text ∧ List.Forall₂ (fun c d => same c d = true) cs part

section Comparison

variable {same : Char → Char → Bool} {cs text : List Char}

theorem takes_literals_iff {elements : List Element} :
    Takes same (cs.map .literal ++ elements) text ↔
      ∃ part rest, text = part ++ rest ∧ List.Forall₂ (fun c d => same c d = true) cs part ∧
        Takes same elements rest := by
  induction cs generalizing text with
  | nil => simp
  | cons c cs ih =>
      rw [List.map_cons, List.cons_append, takes_literal_iff]
      constructor
      · rintro ⟨d, rest, rfl, hsame, hrest⟩
        obtain ⟨part, rest, rfl, hpart, hrest⟩ := ih.mp hrest
        exact ⟨d :: part, rest, rfl, .cons hsame hpart, hrest⟩
      · rintro ⟨part, rest, rfl, hpart, hrest⟩
        obtain ⟨d, tail, hsame, htail, rfl⟩ := List.forall₂_cons_left_iff.mp hpart
        exact ⟨d, tail ++ rest, rfl, hsame, ih.mpr ⟨tail, rest, rfl, htail, hrest⟩⟩

/-- Literal characters between two runs are looked for anywhere in the text. -/
theorem takes_between_runs_iff :
    Takes same (.anyRun :: (cs.map .literal ++ [.anyRun])) text ↔ StandsIn same cs text := by
  have hlast : ∀ rest, Takes same [.anyRun] rest := fun rest =>
    takes_anyRun_iff.mpr ⟨[], List.nil_suffix, .nothing⟩
  rw [takes_anyRun_iff]
  constructor
  · rintro ⟨suffix, ⟨before, rfl⟩, htakes⟩
    obtain ⟨part, rest, rfl, hpart, -⟩ := takes_literals_iff.mp htakes
    exact ⟨part, List.infix_append' before part rest, hpart⟩
  · rintro ⟨part, ⟨before, rest, rfl⟩, hpart⟩
    refine ⟨part ++ rest, ⟨before, (List.append_assoc ..).symm⟩, ?_⟩
    exact takes_literals_iff.mpr ⟨part, rest, rfl, hpart, hlast rest⟩

theorem shellElements_of_plain {token : String} (hplain : hasWildcards token = false) :
    shellElements token.toList = token.toList.map .literal := by
  refine List.map_congr_left fun c hc => ?_
  have hc : isWildcard c = false := by simpa using List.any_eq_false.mp hplain c hc
  obtain ⟨hrun, hone⟩ := Bool.or_eq_false_iff.mp hc
  rw [Element.ofShellChar, if_neg (by simpa using hrun), if_neg (by simpa using hone)]

end Comparison

section Address

variable {token path : String}

theorem mem_of_mem_trimBy {α : Type} {p : α → Bool} {xs : List α} {x : α}
    (hx : x ∈ trimBy p xs) : x ∈ xs := by
  have hx := (List.dropWhile_sublist p).subset (List.mem_reverse.mp hx)
  exact (List.dropWhile_sublist p).subset (List.mem_reverse.mp hx)

theorem mem_of_mem_host {cs : List Char} {c : Char} (hc : c ∈ (Location.of cs).host) : c ∈ cs := by
  rw [Location.of.eq_def] at hc
  split at hc
  · rename_i rest
    have hc := (List.takeWhile_sublist (!endsHost ·)).subset hc
    exact List.mem_cons_of_mem _ (List.mem_cons_of_mem _ hc)
  · exact absurd hc List.not_mem_nil

/-- A file address names the path of its location. -/
theorem plainPath_of_fileUri (huri : isFileUri (trimBy isBlank token.toList) = true)
    (hpath : plainPath token = .ok path) : path = String.ofList (fileLocation token).plainPath := by
  rw [plainPath] at hpath
  simp only [huri, if_true] at hpath
  split at hpath
  · exact (Except.ok.inj hpath).symm
  · cases hpath

/-- The wildcards of a path come from the escapes of its address: the address has none itself, and
what else is added or dropped is none. -/
theorem hasWildcards_of_fileUri (hliteral : hasWildcards token = false)
    (hnamed : path = String.ofList (fileLocation token).plainPath) :
    hasWildcards path = (percentDecode (fileLocation token).path).any isWildcard := by
  have hhost : (fileLocation token).host.any isWildcard = false := by
    refine List.any_eq_false.mpr fun c hc => List.any_eq_false.mp hliteral c ?_
    have hc := (List.mem_filter.mp (mem_of_mem_host hc)).1
    exact mem_of_mem_trimBy ((List.drop_sublist 5 _).subset hc)
  rw [hnamed, hasWildcards, String.toList_ofList, Location.plainPath]
  split
  · rw [List.cons_append, List.cons_append, List.any_cons, List.any_cons, List.any_append, hhost]
    rfl
  · split
    · rename_i hdrive
      rw [hasDrive.eq_def] at hdrive
      split at hdrive
      · rename_i heq
        rw [heq]
        rfl
      · cases hdrive
    · rfl

end Address

section Search

variable {s : Subject} {column token path value : String}

/-- Where substrings are searched, every token becomes a pattern. -/
theorem tokenCondition_substring (column token : String) :
    hasWildcards (effectiveToken token true) = true ∧
      tokenCondition column token true =
        tokenCondition column (effectiveToken token true) false := by
  constructor
  · cases hwild : hasWildcards token with
    | true => simp [effectiveToken, hwild]
    | false =>
        have hstars : hasWildcards ("*" ++ token ++ "*") = true := by
          simp [hasWildcards, isWildcard]
        simp [effectiveToken, hwild, hstars]
  · have hsame : effectiveToken (effectiveToken token true) false = effectiveToken token true := by
      simp [effectiveToken]
    rw [tokenCondition, tokenCondition, LikePattern.ofToken, LikePattern.ofToken, hsame]

theorem isNulFree_effectiveToken (hfree : IsNulFree path) :
    IsNulFree (effectiveToken path true) := by
  rw [effectiveToken]
  split
  · intro c hc
    simp only [String.toList_append, List.mem_append] at hc
    rcases hc with (hc | hc) | hc
    · rw [List.mem_singleton.mp hc]
      decide
    · exact hfree c hc
    · rw [List.mem_singleton.mp hc]
      decide
  · exact hfree

/-- What the pattern of a path takes: texts that the path stands in, or those that the path with its
wildcards describes as a whole. -/
theorem takes_effectiveToken_iff {same : Char → Char → Bool} {text : List Char} :
    Takes same (shellElements (effectiveToken path true).toList) text ↔
      if hasWildcards path then Takes same (shellElements path.toList) text
      else StandsIn same path.toList text := by
  cases hwild : hasWildcards path with
  | true => simp [effectiveToken, hwild]
  | false =>
      have helements : shellElements (effectiveToken path true).toList =
          .anyRun :: (path.toList.map .literal ++ [.anyRun]) := by
        rw [← shellElements_of_plain hwild]
        simp [effectiveToken, hwild, shellElements, Element.ofShellChar]
      rw [helements, takes_between_runs_iff]
      simp

/-- A single token of the path facet. -/
theorem listCondition_pathLike (hpath : plainPath token = .ok path) :
    listCondition .pathLike [token] = .ok (tokenCondition "path" path true) := by
  have htokens : [token].mapM plainPath = .ok [path] := mapM_eq_ok.mpr (by simp [hpath])
  rw [listCondition, if_pos rfl, htokens]
  rfl

/-- The pattern that a path is looked for with. -/
def pathPattern (path : String) : String := likeForm (effectiveToken path true)

theorem satisfies_pathToken (path : String) (hcell : s.cell column = .text value) :
    s.satisfies (tokenCondition column path true) =
      if patternLimit < (pathPattern path).utf8ByteSize then .error (.query .patternTooLong)
      else .ok (some (likeMatch (pathPattern path) value)) := by
  obtain ⟨hwild, hsame⟩ := tokenCondition_substring column path
  rw [hsame]
  exact satisfies_of_wildcards hwild hcell

/-- A path without wildcards is looked for in the text, and one with wildcards describes it. -/
theorem holds_pathToken_iff (hfree : IsNulFree path) (hcell : s.cell column = .text value)
    (hvalue : IsNulFree value) (hshort : (pathPattern path).utf8ByteSize ≤ patternLimit) :
    s.Answers (tokenCondition column path true) ∧
      (s.Holds (tokenCondition column path true) ↔
        if hasWildcards path then Takes likeSame (shellElements path.toList) value.toList
        else StandsIn likeSame path.toList value.toList) := by
  have hchecked := satisfies_pathToken path hcell
  rw [if_neg hshort.not_gt] at hchecked
  refine ⟨⟨_, hchecked⟩, ?_⟩
  rw [Subject.Holds, hchecked, Except.ok.injEq, Option.some.injEq, ← takes_effectiveToken_iff]
  exact likeMatch_likeForm_iff (isNulFree_effectiveToken hfree) hvalue

/-- What a file address without an asterisk or a question mark of its own finds among paths.  If the
path that it names holds neither, the images whose paths the named path stands in; if an escape of
the address spells one of the two, the images whose whole paths the named path describes as a shell
pattern.  A pattern that is too long for the catalog has no answer, and letters are compared up to
ASCII case, unless `LIKE` misreads one of the characters. -/
theorem fileUri_finds (huri : isFileUri (trimBy isBlank token.toList) = true)
    (hliteral : hasWildcards token = false) (hpath : plainPath token = .ok path)
    (hfree : IsNulFree path) (hcell : s.cell "path" = .text value) (hvalue : IsNulFree value) :
    path = String.ofList (fileLocation token).plainPath ∧
      hasWildcards path = (percentDecode (fileLocation token).path).any isWildcard ∧
      (∃ condition, listCondition .pathLike [token] = .ok condition ∧
        (patternLimit < (pathPattern path).utf8ByteSize →
          s.satisfies condition = .error (.query .patternTooLong)) ∧
        ((pathPattern path).utf8ByteSize ≤ patternLimit →
          s.Answers condition ∧ (s.Holds condition ↔
            if hasWildcards path then Takes likeSame (shellElements path.toList) value.toList
            else StandsIn likeSame path.toList value.toList))) ∧
      (Distinguished path value →
        ∀ c ∈ path.toList, ∀ d ∈ value.toList, likeSame c d = sameAscii c d) := by
  have hnamed := plainPath_of_fileUri huri hpath
  refine ⟨hnamed, hasWildcards_of_fileUri hliteral hnamed,
    ⟨_, listCondition_pathLike hpath, fun hlong => ?_, holds_pathToken_iff hfree hcell hvalue⟩,
    fun hread c hc d hd => sameAscii_likeChar (hread c hc d hd)⟩
  rw [satisfies_pathToken path hcell, if_pos hlong]

end Search

theorem plainPath_eq_ok {token path : String}
    (hread : (plainPath token).toOption = some path) : plainPath token = .ok path := by
  cases hpath : plainPath token with
  | error fault => simp [hpath, Except.toOption] at hread
  | ok found => simpa [hpath, Except.toOption] using hread

/-- An image at a path. -/
def imageAt (path : String) : Subject := Catalog.empty.subject ⟨1, .text path, []⟩

theorem fileUri_finds_underscore :
    ∃ condition, listCondition .pathLike ["file:///photos/d%5F"] = .ok condition ∧
      (imageAt "/PHOTOS/d_cat.jpg").Holds condition := by
  have hpath : plainPath "file:///photos/d%5F" = .ok "/photos/d_" :=
    plainPath_eq_ok (by decide +kernel)
  obtain ⟨-, -, ⟨condition, hcondition, -, hfinds⟩, -⟩ :=
    fileUri_finds (s := imageAt "/PHOTOS/d_cat.jpg") (by decide +kernel) (by decide +kernel) hpath
      (by decide +kernel) rfl (by decide +kernel)
  refine ⟨condition, hcondition, (hfinds (by decide +kernel)).2.mpr ?_⟩
  rw [if_neg (by decide +kernel)]
  exact ⟨"/PHOTOS/d_".toList, by decide +kernel, by decide +kernel⟩

/-- An escaped asterisk is a wildcard: the address finds an image whose path does not hold the named
path. -/
theorem fileUri_escapes_are_wildcards :
    ¬∀ (s : Subject) (token path value : String),
      isFileUri (trimBy isBlank token.toList) = true → hasWildcards token = false →
      plainPath token = .ok path → IsNulFree path → s.cell "path" = .text value →
      IsNulFree value → ∀ condition, listCondition .pathLike [token] = .ok condition →
      (s.Holds condition ↔ StandsIn sameAscii path.toList value.toList) := by
  intro hall
  have hpath : plainPath "file:///photos/a%2Ab" = .ok "/photos/a*b" :=
    plainPath_eq_ok (by decide +kernel)
  have hiff := hall (imageAt "/photos/axxb") _ _ "/photos/axxb" (by decide +kernel)
    (by decide +kernel) hpath (by decide +kernel) rfl (by decide +kernel) _
    (listCondition_pathLike hpath)
  have hholds : (imageAt "/photos/axxb").Holds (tokenCondition "path" "/photos/a*b" true) := by
    refine (holds_pathToken_iff (by decide +kernel) rfl (by decide +kernel)
      (by decide +kernel)).2.mpr ?_
    rw [if_pos (by decide +kernel), ← matchesElements_iff]
    decide +kernel
  have htakes := matchesElements_iff.mpr (takes_between_runs_iff.mpr (hiff.mp hholds))
  revert htakes
  decide +kernel

end PhotoCatalog.Query
