import Mathlib.Data.List.Forall2
import PhotoCatalog.Proofs.Sql.Token

/-!
The placeholders of a text.  A placeholder is a colon with all word characters behind it, so that
`:p1` does not stand in `:p10`.  What a text mentions is put together from its pieces, as long as no
piece goes on a placeholder that stands before it.
-/

namespace PhotoCatalog.Sql

def Token.parameter? : Token → Option String
  | .parameter s => some s
  | _ => none

/-- The placeholders of characters that are read from a pending state on. -/
def placeholdersFrom (pending : Pending) (cs : List Char) : List String :=
  (tokensFrom pending cs).filterMap Token.parameter?

/-- The names of the placeholders of a text, in the order in which they stand in it. -/
def placeholders (text : String) : List String := placeholdersFrom .idle text.toList

/-- Neither a parameter nor a quoted text is pending. -/
def Pending.IsQuiet : Pending → Prop
  | .parameter _ | .quoted _ => False
  | _ => True

/-- Whether a text holds neither a colon nor a quote. -/
def isPlain (s : String) : Bool := s.toList.all fun c => c != ':' && c != '\''

section Quiet

variable {pending : Pending} {c : Char}

theorem parameter?_wordToken (cs : List Char) : (wordToken cs).parameter? = none := by
  rw [wordToken]
  cases keyword? cs <;> rfl

theorem Pending.IsQuiet.tokens (hquiet : pending.IsQuiet) :
    pending.tokens.filterMap Token.parameter? = [] := by
  cases pending with
  | word cs => simp [Pending.tokens, parameter?_wordToken]
  | parameter => exact hquiet.elim
  | quoted => exact hquiet.elim
  | _ => rfl

theorem beginToken_plain (hcolon : c ≠ ':') (hquote : c ≠ '\'') :
    (beginToken c).1.filterMap Token.parameter? = [] ∧ (beginToken c).2.IsQuiet := by
  rw [beginToken, if_neg hcolon, if_neg hquote]
  repeat' split
  all_goals exact ⟨rfl, trivial⟩

/-- Other characters neither finish a parameter nor begin one. -/
theorem Pending.IsQuiet.readChar_plain (hquiet : pending.IsQuiet) (hcolon : c ≠ ':')
    (hquote : c ≠ '\'') :
    (readChar pending c).1.filterMap Token.parameter? = [] ∧ (readChar pending c).2.IsQuiet := by
  have hbegin := beginToken_plain hcolon hquote
  have hfinish : (finishToken pending c).1.filterMap Token.parameter? = [] ∧
      (finishToken pending c).2.IsQuiet := by
    rw [finishToken, List.filterMap_append, hquiet.tokens, hbegin.1]
    exact ⟨rfl, hbegin.2⟩
  cases pending with
  | idle => exact hbegin
  | parameter => exact hquiet.elim
  | quoted => exact hquiet.elim
  | _ =>
      rw [readChar]
      split
      · exact ⟨rfl, trivial⟩
      · exact hfinish

/-- A colon or a quote finishes what is pending. -/
theorem Pending.IsQuiet.readChar_sign (hquiet : pending.IsQuiet) (hsign : c = ':' ∨ c = '\'') :
    readChar pending c = finishToken pending c := by
  cases pending with
  | parameter => exact hquiet.elim
  | quoted => exact hquiet.elim
  | _ => obtain rfl | rfl := hsign <;> rfl

/-- What a word or a number becomes does not change the placeholders behind it. -/
theorem Pending.IsQuiet.placeholdersFrom (hquiet : pending.IsQuiet) (cs : List Char) :
    placeholdersFrom pending cs = placeholdersFrom .idle cs := by
  induction cs generalizing pending with
  | nil => exact hquiet.tokens
  | cons c cs ih =>
      rw [Sql.placeholdersFrom, Sql.placeholdersFrom, tokensFrom, tokensFrom,
        List.filterMap_append, List.filterMap_append]
      by_cases hsign : c = ':' ∨ c = '\''
      · have hidle : readChar .idle c = beginToken c := rfl
        rw [hquiet.readChar_sign hsign, finishToken, List.filterMap_append, hquiet.tokens, hidle,
          List.nil_append]
      · obtain ⟨hcolon, hquote⟩ := not_or.mp hsign
        have hread := hquiet.readChar_plain hcolon hquote
        have hread' := Pending.IsQuiet.readChar_plain (show Pending.idle.IsQuiet from trivial)
          hcolon hquote
        rw [hread.1, hread'.1]
        exact (ih hread.2).trans (ih hread'.2).symm

end Quiet

/-- Whatever follows the piece, it mentions nothing. -/
def Silent (piece : String) : Prop :=
  ∀ rest, placeholdersFrom .idle (piece.toList ++ rest) = placeholdersFrom .idle rest

/-- Wherever the text stands, it mentions these names, as long as what follows does not go on. -/
def Mentions (text : String) (names : List String) : Prop :=
  ∀ rest, (∀ c ∈ rest.head?, isWordChar c = false) →
    placeholdersFrom .idle (text.toList ++ rest) = names ++ placeholdersFrom .idle rest

/-- Whatever follows the text, it mentions these names. -/
def MentionsClosed (text : String) (names : List String) : Prop :=
  ∀ rest, placeholdersFrom .idle (text.toList ++ rest) = names ++ placeholdersFrom .idle rest

/-- A silent piece that does not go on what stands before it. -/
structure Separates (piece : String) : Prop where
  silent : Silent piece
  begins : ∃ c, piece.toList.head? = some c ∧ isWordChar c = false

theorem silent_of_isPlain {piece : String} (hpiece : isPlain piece = true) : Silent piece := by
  intro rest
  have hskip : ∀ cs : List Char, (cs.all fun c => c != ':' && c != '\'') = true →
      placeholdersFrom .idle (cs ++ rest) = placeholdersFrom .idle rest := by
    intro cs
    induction cs with
    | nil => exact fun _ => rfl
    | cons c cs ih =>
        intro hall
        rw [List.all_cons, Bool.and_eq_true, Bool.and_eq_true, bne_iff_ne, bne_iff_ne] at hall
        obtain ⟨⟨hcolon, hquote⟩, hcs⟩ := hall
        have hread := Pending.IsQuiet.readChar_plain (show Pending.idle.IsQuiet from trivial)
          hcolon hquote
        rw [placeholdersFrom, List.cons_append, tokensFrom, List.filterMap_append, hread.1]
        exact (hread.2.placeholdersFrom (cs ++ rest)).trans (ih hcs)
  exact hskip piece.toList hpiece

theorem isPlain_append (s t : String) : isPlain (s ++ t) = (isPlain s && isPlain t) := by
  rw [isPlain, String.toList_append, List.all_append]
  rfl

section Pieces

variable {a b piece : String} {na nb : List String}

theorem Separates.of_isPlain (hpiece : isPlain piece = true)
    (hbegins : piece.toList.head?.any (!isWordChar ·) = true) : Separates piece := by
  refine ⟨silent_of_isPlain hpiece, ?_⟩
  cases hhead : piece.toList.head? with
  | none => simp [hhead] at hbegins
  | some c => exact ⟨c, rfl, by simpa [hhead] using hbegins⟩

theorem Silent.closed (hpiece : Silent piece) : MentionsClosed piece [] := hpiece

theorem MentionsClosed.mentions (ha : MentionsClosed a na) : Mentions a na := fun rest _ => ha rest

theorem mentions_placeholder {name : String} (hname : name.toList.all isWordChar = true) :
    Mentions (":" ++ name) [name] := by
  intro rest hrest
  have hcolon : placeholdersFrom .idle (':' :: (name.toList ++ rest)) =
      placeholdersFrom (.parameter []) (name.toList ++ rest) := rfl
  rw [String.toList_append, List.append_assoc]
  change placeholdersFrom .idle (':' :: (name.toList ++ rest)) = _
  rw [hcolon, placeholdersFrom, tokensFrom_parameter [] hname hrest, List.nil_append,
    String.ofList_toList]
  rfl

theorem MentionsClosed.append (ha : MentionsClosed a na) (hb : Mentions b nb) :
    Mentions (a ++ b) (na ++ nb) := by
  intro rest hrest
  rw [String.toList_append, List.append_assoc, ha, hb rest hrest, List.append_assoc]

theorem Mentions.separated (ha : Mentions a na) (hpiece : Separates piece) :
    MentionsClosed (a ++ piece) na := by
  intro rest
  obtain ⟨c, hhead, hc⟩ := hpiece.begins
  rw [String.toList_append, List.append_assoc, ha, hpiece.silent]
  intro d hd
  rw [List.head?_append, hhead] at hd
  obtain rfl := Option.some.inj hd
  exact hc

/-- Texts one after the other, with a piece between them that goes on none of them. -/
theorem Mentions.intercalate (hpiece : Separates piece) {texts : List String}
    {names : List (List String)} (hall : List.Forall₂ Mentions texts names) :
    Mentions (piece.intercalate texts) names.flatten := by
  induction hall with
  | nil => exact fun rest _ => rfl
  | @cons a na texts names hfirst hrest ih =>
      cases hrest with
      | nil => simpa using hfirst
      | cons =>
          rw [String.intercalate_cons_cons, List.flatten_cons]
          exact (hfirst.separated hpiece).append ih

theorem Mentions.placeholders_eq (ha : Mentions a na) : placeholders a = na := by
  have hnone : ∀ c ∈ ([] : List Char).head?, isWordChar c = false := by
    rintro c ⟨⟩
  have hall := ha [] hnone
  rw [List.append_nil] at hall
  exact hall.trans (List.append_nil na)

end Pieces

end PhotoCatalog.Sql
