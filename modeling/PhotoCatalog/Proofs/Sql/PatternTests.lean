import PhotoCatalog.Proofs.Sql.Written

/-!
Comparisons with patterns.  In an expression they are found by its structure, with the table that
each column belongs to; a text in which no word can be the keyword of these comparisons has none.
-/

namespace PhotoCatalog.Sql

open PhotoCatalog.Text

/-- A comparison of a column with a pattern. -/
structure PatternTest where
  table : String
  column : String
  pattern : Expr

/-- The comparisons of columns with patterns in an expression.  The scope tells which tables short
names stand for; an inner query adds its own. -/
def Expr.patternTests (scope : List (String × String)) : Expr → List PatternTest
  | .like text pattern escape =>
    (match text with
      | .column name c => (scope.lookup name).toList.map fun table => ⟨table, c, pattern⟩
      | _ => [])
      ++ text.patternTests scope ++ pattern.patternTests scope ++ escape.patternTests scope
  | .call _ operand | .negated operand | .collated operand _ | .isNotNull operand =>
    operand.patternTests scope
  | .binary _ left right => left.patternTests scope ++ right.patternTests scope
  | .between operand low high =>
    operand.patternTests scope ++ low.patternTests scope ++ high.patternTests scope
  | .existsRow table name condition => condition.patternTests ((name, table) :: scope)
  | .number _ | .quoted _ | .parameter _ | .value _ | .column _ _ => []

theorem patternTests_chain (scope : List (String × String)) (op : Operator) (e : Expr)
    (others : List Expr) :
    (chain op e others).patternTests scope = (e :: others).flatMap (Expr.patternTests scope) := by
  induction others generalizing e with
  | nil => simp [chain]
  | cons other others ih =>
      have hchain : chain op e (other :: others) = chain op (.binary op e other) others := rfl
      rw [hchain, ih, List.flatMap_cons, List.flatMap_cons, List.flatMap_cons, Expr.patternTests,
        List.append_assoc]

section Keyword

variable {letter : Char} {k : Keyword}

/-- Whether a letter is missing from a text, in whatever case. -/
def lacks (letter : Char) (s : String) : Bool := s.toList.all (asciiUpper · != letter)

/-- A letter is missing from what is pending, if that is a word. -/
def Pending.Lacks (letter : Char) : Pending → Prop
  | .word cs => ∀ c ∈ cs, asciiUpper c ≠ letter
  | _ => True

theorem lacks_append (letter : Char) (s t : String) :
    lacks letter (s ++ t) = (lacks letter s && lacks letter t) := by
  rw [lacks, String.toList_append, List.all_append]
  rfl

theorem lacks_intercalate {piece : String} {texts : List String}
    (hpiece : lacks letter piece = true) (htexts : ∀ text ∈ texts, lacks letter text = true) :
    lacks letter (piece.intercalate texts) = true := by
  induction texts with
  | nil => simp [lacks]
  | cons first rest ih =>
      obtain ⟨hfirst, hrest⟩ := List.forall_mem_cons.mp htexts
      cases rest with
      | nil => simpa using hfirst
      | cons =>
          rw [String.intercalate_cons_cons, lacks_append, lacks_append, hfirst, hpiece, ih hrest]
          rfl

theorem Pending.Lacks.tokens {pending : Pending} (hpending : pending.Lacks letter)
    (hletter : letter ∈ k.word.toList) : Token.keyword k ∉ pending.tokens := by
  cases pending with
  | word cs =>
      intro hmem
      rw [Pending.tokens, List.mem_singleton, wordToken] at hmem
      split at hmem
      · rename_i k' hkeyword
        obtain rfl := Token.keyword.inj hmem
        have hword := List.find?_some hkeyword
        rw [beq_iff_eq] at hword
        rw [hword, List.mem_map] at hletter
        obtain ⟨c, hc, hupper⟩ := hletter
        exact hpending c hc hupper
      · exact Token.noConfusion hmem
  | _ => simp [Pending.tokens]

theorem beginToken_lacks {c : Char} (hc : asciiUpper c ≠ letter) :
    Token.keyword k ∉ (beginToken c).1 ∧ (beginToken c).2.Lacks letter := by
  rw [beginToken]
  repeat' split
  all_goals simp [Pending.Lacks, hc]

theorem Pending.Lacks.readChar {pending : Pending} (hpending : pending.Lacks letter)
    (hletter : letter ∈ k.word.toList) {c : Char} (hc : asciiUpper c ≠ letter) :
    Token.keyword k ∉ (readChar pending c).1 ∧ (readChar pending c).2.Lacks letter := by
  have hbegin := beginToken_lacks (k := k) hc
  have hfinish : Token.keyword k ∉ (finishToken pending c).1 ∧
      (finishToken pending c).2.Lacks letter := by
    rw [finishToken, List.mem_append, not_or]
    exact ⟨⟨hpending.tokens hletter, hbegin.1⟩, hbegin.2⟩
  cases pending with
  | idle => exact hbegin
  | word cs =>
      rw [Sql.readChar]
      split
      · refine ⟨List.not_mem_nil, fun d hd => ?_⟩
        rcases List.mem_append.mp hd with hd | hd
        · exact hpending d hd
        · exact List.mem_singleton.mp hd ▸ hc
      · exact hfinish
  | _ =>
      rw [Sql.readChar]
      split
      · simp [Pending.Lacks]
      · first | exact hfinish | simp [Pending.Lacks]

/-- A text without some letter of a keyword does not hold the keyword. -/
theorem keyword_not_mem_tokensOf {text : String} (htext : lacks letter text = true)
    (hletter : letter ∈ k.word.toList) : Token.keyword k ∉ tokensOf text := by
  have hread : ∀ (cs : List Char) (pending : Pending), pending.Lacks letter →
      (∀ c ∈ cs, asciiUpper c ≠ letter) → Token.keyword k ∉ tokensFrom pending cs := by
    intro cs
    induction cs with
    | nil => exact fun pending hpending _ => hpending.tokens hletter
    | cons c cs ih =>
        intro pending hpending hcs
        obtain ⟨hc, hcs⟩ := List.forall_mem_cons.mp hcs
        obtain ⟨hnot, hnext⟩ := hpending.readChar hletter hc
        rw [tokensFrom, List.mem_append, not_or]
        exact ⟨hnot, ih _ hnext hcs⟩
  refine hread text.toList .idle trivial fun c hc => ?_
  simpa using List.all_eq_true.mp htext c hc

end Keyword

end PhotoCatalog.Sql
