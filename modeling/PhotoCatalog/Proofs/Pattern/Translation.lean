import PhotoCatalog.Proofs.Pattern.Agreement

/-!
The meaning of a token for the catalog.  A shell pattern and a `LIKE` pattern are both read here
character by character, by rules; the pattern that a token is translated to escapes exactly what has
to be escaped, and it takes the texts that the token takes.
-/

namespace PhotoCatalog.Pattern

open PhotoCatalog.Text

/-- The `LIKE` pattern takes the whole text: a percent sign stands for any run, an underscore for
one character, an escaped character for itself, and any other character for itself, up to the case
of ASCII letters. -/
inductive LikeTakes : List Char → List Char → Prop where
  | nothing : LikeTakes [] []
  | escaped {c d : Char} {pattern text : List Char} (hsame : sameAscii c d = true)
      (hrest : LikeTakes pattern text) : LikeTakes (escapeChar :: c :: pattern) (d :: text)
  | literal {c d : Char} {pattern text : List Char} (hescape : c ≠ escapeChar) (hrun : c ≠ '%')
      (hone : c ≠ '_') (hsame : sameAscii c d = true) (hrest : LikeTakes pattern text) :
      LikeTakes (c :: pattern) (d :: text)
  | oneChar {d : Char} {pattern text : List Char} (hrest : LikeTakes pattern text) :
      LikeTakes ('_' :: pattern) (d :: text)
  | runEnds {pattern text : List Char} (hrest : LikeTakes pattern text) :
      LikeTakes ('%' :: pattern) text
  | runGoesOn {d : Char} {pattern text : List Char} (hrun : LikeTakes ('%' :: pattern) text) :
      LikeTakes ('%' :: pattern) (d :: text)

/-- The shell pattern takes the whole text: an asterisk stands for any run, a question mark for one
character, and any other character for itself, up to the case of ASCII letters. -/
inductive ShellTakes : List Char → List Char → Prop where
  | nothing : ShellTakes [] []
  | literal {c d : Char} {token text : List Char} (hrun : c ≠ '*') (hone : c ≠ '?')
      (hsame : sameAscii c d = true) (hrest : ShellTakes token text) :
      ShellTakes (c :: token) (d :: text)
  | oneChar {d : Char} {token text : List Char} (hrest : ShellTakes token text) :
      ShellTakes ('?' :: token) (d :: text)
  | runEnds {token text : List Char} (hrest : ShellTakes token text) :
      ShellTakes ('*' :: token) text
  | runGoesOn {d : Char} {token text : List Char} (hrun : ShellTakes ('*' :: token) text) :
      ShellTakes ('*' :: token) (d :: text)

/-- Every escape character is followed by a character that has to be escaped. -/
inductive WellEscaped : List Char → Prop where
  | nothing : WellEscaped []
  | escaped {c : Char} {pattern : List Char} (hspecial : c = escapeChar ∨ c = '%' ∨ c = '_')
      (hrest : WellEscaped pattern) : WellEscaped (escapeChar :: c :: pattern)
  | plain {c : Char} {pattern : List Char} (hc : c ≠ escapeChar) (hrest : WellEscaped pattern) :
      WellEscaped (c :: pattern)

variable {pattern token text : List Char}

/-- What a `LIKE` pattern takes is taken by its elements. -/
theorem LikeTakes.elements (htakes : LikeTakes pattern text) :
    ∃ elements, likeElements pattern = some elements ∧ Takes sameAscii elements text := by
  induction htakes with
  | nothing => exact ⟨[], rfl, .nothing⟩
  | @escaped c _ pattern _ hsame _ ih =>
      obtain ⟨elements, helements, hrest⟩ := ih
      refine ⟨.literal c :: elements, ?_, .literal hsame hrest⟩
      rw [likeElements_escaped, helements]
      rfl
  | @literal c _ pattern _ hescape hrun hone hsame _ ih =>
      obtain ⟨elements, helements, hrest⟩ := ih
      refine ⟨.literal c :: elements, ?_, .literal hsame hrest⟩
      rw [likeElements_cons hescape, helements, if_neg hrun, if_neg hone]
      rfl
  | @oneChar _ pattern _ _ ih =>
      obtain ⟨elements, helements, hrest⟩ := ih
      refine ⟨.anyChar :: elements, ?_, .anyChar hrest⟩
      rw [likeElements_cons (by decide), helements]
      rfl
  | @runEnds pattern _ _ ih =>
      obtain ⟨elements, helements, hrest⟩ := ih
      refine ⟨.anyRun :: elements, ?_, .runEnds hrest⟩
      rw [likeElements_cons (by decide), helements]
      rfl
  | @runGoesOn _ pattern _ _ ih =>
      obtain ⟨elements, helements, hrun⟩ := ih
      have hread := helements
      rw [likeElements_cons (by decide)] at hread
      obtain ⟨_, -, rfl⟩ := Option.map_eq_some_iff.mp hread
      exact ⟨_, helements, .runGoesOn hrun⟩

/-- How a pattern begins whose first element is known. -/
theorem likeElements_eq_cons {element : Element} {elements : List Element}
    (hread : likeElements pattern = some (element :: elements)) :
    ∃ rest, likeElements rest = some elements ∧
      ((∃ c, pattern = escapeChar :: c :: rest ∧ element = .literal c) ∨
        (pattern = '%' :: rest ∧ element = .anyRun) ∨
        (pattern = '_' :: rest ∧ element = .anyChar) ∨
        ∃ c, pattern = c :: rest ∧ c ≠ escapeChar ∧ c ≠ '%' ∧ c ≠ '_' ∧ element = .literal c) := by
  cases pattern with
  | nil => cases hread
  | cons c rest =>
      by_cases hescape : c = escapeChar
      · subst hescape
        cases rest with
        | nil => cases hread
        | cons d rest =>
            rw [likeElements_escaped] at hread
            obtain ⟨_, helements, heq⟩ := Option.map_eq_some_iff.mp hread
            obtain ⟨rfl, rfl⟩ := List.cons.inj heq
            exact ⟨rest, helements, .inl ⟨d, rfl, rfl⟩⟩
      · rw [likeElements_cons hescape] at hread
        obtain ⟨_, helements, heq⟩ := Option.map_eq_some_iff.mp hread
        obtain ⟨rfl, rfl⟩ := List.cons.inj heq
        refine ⟨rest, helements, .inr ?_⟩
        by_cases hrun : c = '%'
        · exact .inl ⟨by rw [hrun], if_pos hrun⟩
        by_cases hone : c = '_'
        · exact .inr (.inl ⟨by rw [hone], by rw [if_neg hrun, if_pos hone]⟩)
        · exact .inr (.inr ⟨c, rfl, hescape, hrun, hone, by rw [if_neg hrun, if_neg hone]⟩)

theorem likeElements_eq_nil (hread : likeElements pattern = some []) : pattern = [] := by
  cases pattern with
  | nil => rfl
  | cons c rest =>
      by_cases hescape : c = escapeChar
      · subst hescape
        cases rest with
        | nil => cases hread
        | cons d rest =>
            rw [likeElements_escaped] at hread
            obtain ⟨_, -, heq⟩ := Option.map_eq_some_iff.mp hread
            cases heq
      · rw [likeElements_cons hescape] at hread
        obtain ⟨_, -, heq⟩ := Option.map_eq_some_iff.mp hread
        cases heq

/-- What the elements of a `LIKE` pattern take is taken by the pattern. -/
theorem Takes.likeTakes {elements : List Element} (htakes : Takes sameAscii elements text)
    (hread : likeElements pattern = some elements) : LikeTakes pattern text := by
  induction htakes generalizing pattern with
  | nothing =>
      rw [likeElements_eq_nil hread]
      exact .nothing
  | literal hsame _ ih =>
      obtain ⟨rest, hrest, ⟨c, rfl, heq⟩ | ⟨-, ⟨⟩⟩ | ⟨-, ⟨⟩⟩ | ⟨c, rfl, hescape, hrun, hone, heq⟩⟩ :=
        likeElements_eq_cons hread
      · exact .escaped (Element.literal.inj heq ▸ hsame) (ih hrest)
      · exact .literal hescape hrun hone (Element.literal.inj heq ▸ hsame) (ih hrest)
  | anyChar _ ih =>
      obtain ⟨rest, hrest, ⟨_, -, ⟨⟩⟩ | ⟨-, ⟨⟩⟩ | ⟨rfl, -⟩ | ⟨_, -, -, -, -, ⟨⟩⟩⟩ :=
        likeElements_eq_cons hread
      exact .oneChar (ih hrest)
  | runEnds _ ih =>
      obtain ⟨rest, hrest, ⟨_, -, ⟨⟩⟩ | ⟨rfl, -⟩ | ⟨-, ⟨⟩⟩ | ⟨_, -, -, -, -, ⟨⟩⟩⟩ :=
        likeElements_eq_cons hread
      exact .runEnds (ih hrest)
  | runGoesOn _ ih =>
      obtain ⟨rest, -, ⟨_, -, ⟨⟩⟩ | ⟨rfl, -⟩ | ⟨-, ⟨⟩⟩ | ⟨_, -, -, -, -, ⟨⟩⟩⟩ :=
        likeElements_eq_cons hread
      exact .runGoesOn (ih hread)

/-- The catalog's matcher answers with yes exactly where the pattern takes the text. -/
theorem likeAccepts_iff : likeAccepts pattern text = true ↔ LikeTakes pattern text := by
  constructor
  · intro haccepts
    cases hread : likeElements pattern with
    | none => simp [likeAccepts, hread] at haccepts
    | some elements =>
        simp only [likeAccepts, hread] at haccepts
        exact (matchesElements_iff.mp haccepts).likeTakes hread
  · intro htakes
    obtain ⟨elements, hread, htakes⟩ := htakes.elements
    simp only [likeAccepts, hread]
    exact matchesElements_iff.mpr htakes

theorem ofShellChar_cases (c : Char) :
    (c = '*' ∧ Element.ofShellChar c = .anyRun) ∨ (c = '?' ∧ Element.ofShellChar c = .anyChar) ∨
      (c ≠ '*' ∧ c ≠ '?' ∧ Element.ofShellChar c = .literal c) := by
  by_cases hrun : c = '*'
  · exact .inl ⟨hrun, if_pos hrun⟩
  by_cases hone : c = '?'
  · exact .inr (.inl ⟨hone, by rw [Element.ofShellChar, if_neg hrun, if_pos hone]⟩)
  · exact .inr (.inr ⟨hrun, hone, by rw [Element.ofShellChar, if_neg hrun, if_neg hone]⟩)

/-- How a shell pattern begins whose first element is known. -/
theorem shellElements_eq_cons {element : Element} {elements : List Element}
    (hread : shellElements token = element :: elements) :
    ∃ rest, shellElements rest = elements ∧
      ((token = '*' :: rest ∧ element = .anyRun) ∨ (token = '?' :: rest ∧ element = .anyChar) ∨
        ∃ c, token = c :: rest ∧ c ≠ '*' ∧ c ≠ '?' ∧ element = .literal c) := by
  obtain ⟨c, rest, rfl, rfl, hrest⟩ := List.map_eq_cons_iff.mp hread
  refine ⟨rest, hrest, ?_⟩
  rcases ofShellChar_cases c with ⟨rfl, heq⟩ | ⟨rfl, heq⟩ | ⟨hrun, hone, heq⟩
  · exact .inl ⟨rfl, heq⟩
  · exact .inr (.inl ⟨rfl, heq⟩)
  · exact .inr (.inr ⟨c, rfl, hrun, hone, heq⟩)

/-- What the elements of a shell pattern take is taken by the pattern. -/
theorem Takes.shellTakes {elements : List Element} (htakes : Takes sameAscii elements text)
    (hread : shellElements token = elements) : ShellTakes token text := by
  induction htakes generalizing token with
  | nothing =>
      rw [List.map_eq_nil_iff.mp hread]
      exact .nothing
  | literal hsame _ ih =>
      obtain ⟨rest, hrest, ⟨-, ⟨⟩⟩ | ⟨-, ⟨⟩⟩ | ⟨c, rfl, hrun, hone, heq⟩⟩ :=
        shellElements_eq_cons hread
      exact .literal hrun hone (Element.literal.inj heq ▸ hsame) (ih hrest)
  | anyChar _ ih =>
      obtain ⟨rest, hrest, ⟨-, ⟨⟩⟩ | ⟨rfl, -⟩ | ⟨_, -, -, -, ⟨⟩⟩⟩ := shellElements_eq_cons hread
      exact .oneChar (ih hrest)
  | runEnds _ ih =>
      obtain ⟨rest, hrest, ⟨rfl, -⟩ | ⟨-, ⟨⟩⟩ | ⟨_, -, -, -, ⟨⟩⟩⟩ := shellElements_eq_cons hread
      exact .runEnds (ih hrest)
  | runGoesOn _ ih =>
      obtain ⟨rest, -, ⟨rfl, -⟩ | ⟨-, ⟨⟩⟩ | ⟨_, -, -, -, ⟨⟩⟩⟩ := shellElements_eq_cons hread
      exact .runGoesOn (ih hread)

/-- A shell pattern takes what its elements take, one character of it being one element. -/
theorem shellTakes_iff : ShellTakes token text ↔ Takes sameAscii (shellElements token) text := by
  refine ⟨fun htakes => ?_, fun htakes => htakes.shellTakes rfl⟩
  induction htakes with
  | nothing => exact .nothing
  | @literal c _ _ _ hrun hone hsame _ ih =>
      have helement : Element.ofShellChar c = .literal c := by
        rw [Element.ofShellChar, if_neg hrun, if_neg hone]
      rw [shellElements, List.map_cons, helement]
      exact .literal hsame ih
  | oneChar _ ih => exact .anyChar ih
  | runEnds _ ih => exact .runEnds ih
  | runGoesOn _ ih => exact .runGoesOn ih

/-- The `LIKE` form of a shell pattern takes what the shell pattern takes. -/
theorem likeTakes_iff_shellTakes :
    LikeTakes (token.flatMap likeOfShellChar) text ↔ ShellTakes token text := by
  rw [← likeAccepts_iff, likeAccepts, likeElements_flatMap, shellTakes_iff]
  exact matchesElements_iff

/-- A character is written with an escape character before it exactly when it needs one. -/
theorem WellEscaped.likeOfShellChar (hrest : WellEscaped pattern) (c : Char) :
    WellEscaped (likeOfShellChar c ++ pattern) := by
  rw [Pattern.likeOfShellChar, escapeLikeChar]
  split
  · exact .plain (by decide) hrest
  split
  · exact .plain (by decide) hrest
  split
  · exact .escaped ‹_› hrest
  · rename_i hplain
    exact .plain (fun hescape => hplain (.inl hescape)) hrest

theorem wellEscaped_flatMap (token : List Char) :
    WellEscaped (token.flatMap Pattern.likeOfShellChar) := by
  induction token with
  | nil => exact .nothing
  | cons c token ih =>
      rw [List.flatMap_cons]
      exact ih.likeOfShellChar c

/-- Only an asterisk becomes a percent sign without an escape character before it. -/
theorem head?_flatMap_eq_percent_iff :
    (token.flatMap Pattern.likeOfShellChar).head? = some '%' ↔ token.head? = some '*' := by
  cases token with
  | nil => simp
  | cons c token =>
      rw [List.flatMap_cons, Pattern.likeOfShellChar, escapeLikeChar, List.head?_cons]
      split
      · rename_i hrun
        simp [hrun]
      split
      · rename_i hone
        simp [hone]
      split
      · rename_i hrun _ _
        simpa [escapeChar] using hrun
      · rename_i hrun _ hplain
        have hpercent : c ≠ '%' := fun hc => hplain (.inr (.inl hc))
        simp [hrun, hpercent]

/-- The comparison that a token asks for means the token as a shell pattern: it is exact only
without wildcards, and then with the pattern itself; else its `LIKE` pattern is well escaped and
takes the same texts, and an index can help unless the shell pattern begins with an asterisk. -/
theorem ofToken_means_shell_pattern (token text : String) (substring : Bool) :
    let shell := if substring && !hasWildcards token then "*" ++ token ++ "*" else token
    let like := LikePattern.ofToken token substring
    if like.exact then
      hasWildcards shell = false ∧ like.pattern = shell ∧ like.prefixOptimizable = true
    else
      WellEscaped like.pattern.toList ∧
        (LikeTakes like.pattern.toList text.toList ↔ ShellTakes shell.toList text.toList) ∧
        (likeAccepts like.pattern.toList text.toList = true ↔
          ShellTakes shell.toList text.toList) ∧
        (like.prefixOptimizable = false ↔ shell.toList.head? = some '*') := by
  intro shell like
  have hlike : like = if hasWildcards shell then
      ⟨likeForm shell, (shell.toList.flatMap likeOfShellChar).head? != some '%', false⟩
    else ⟨shell, true, true⟩ := rfl
  cases hwild : hasWildcards shell with
  | false =>
      rw [hwild] at hlike
      simp [hlike]
  | true =>
      rw [hwild] at hlike
      have hpattern : like.pattern.toList = shell.toList.flatMap likeOfShellChar := by
        simp [hlike, likeForm]
      have hindex : like.prefixOptimizable = false ↔ shell.toList.head? = some '*' := by
        rw [← head?_flatMap_eq_percent_iff]
        simp [hlike]
      rw [hpattern, if_neg (by simp [hlike]), likeAccepts_iff]
      exact ⟨wellEscaped_flatMap _, likeTakes_iff_shellTakes, likeTakes_iff_shellTakes, hindex⟩

end PhotoCatalog.Pattern
