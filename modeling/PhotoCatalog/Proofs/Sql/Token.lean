import PhotoCatalog.Text.Case

/-!
The words of a query.  A text is read character by character with a pending state: names, numbers,
parameters and quoted texts go on until a character that does not belong to them.  Reading a text
that is put together from pieces comes to the tokens of the pieces, as long as no piece runs on into
the next one.
-/

namespace PhotoCatalog.Sql

open PhotoCatalog.Text

/-- Words with a meaning of their own, which cannot be names. -/
inductive Keyword where
  | and | or | not | is | null | like | escape | between | collate | exists | select | from | where
deriving Repr, DecidableEq

def Keyword.all : List Keyword :=
  [.and, .or, .not, .is, .null, .like, .escape, .between, .collate, .exists, .select, .from,
    .where]

def Keyword.word : Keyword → String
  | .and => "AND"
  | .or => "OR"
  | .not => "NOT"
  | .is => "IS"
  | .null => "NULL"
  | .like => "LIKE"
  | .escape => "ESCAPE"
  | .between => "BETWEEN"
  | .collate => "COLLATE"
  | .exists => "EXISTS"
  | .select => "SELECT"
  | .from => "FROM"
  | .where => "WHERE"

inductive Symbol where
  | opening | closing | dot | plus | minus | star | slash
  | equal | less | atMost | greater | atLeast
deriving Repr, DecidableEq

inductive Token where
  | keyword (k : Keyword)
  | name (s : String)
  | number (digits : String)
  | quoted (s : String)
  | parameter (name : String)
  | symbol (s : Symbol)
  /-- A character that no token begins with, or a text without its closing quote. -/
  | unknown
deriving Repr, DecidableEq

/-- The keyword that characters spell, in whatever case. -/
def keyword? (cs : List Char) : Option Keyword :=
  Keyword.all.find? fun k => k.word.toList == cs.map asciiUpper

def wordToken (cs : List Char) : Token :=
  match keyword? cs with
  | some k => .keyword k
  | none => .name (String.ofList cs)

/-- What has been read of the token that is not finished yet. -/
inductive Pending where
  | idle
  | word (cs : List Char)
  | number (cs : List Char)
  | parameter (cs : List Char)
  | quoted (cs : List Char)
  | less
  | greater

/-- The token that is finished when nothing more belongs to it. -/
def Pending.tokens : Pending → List Token
  | .idle => []
  | .word cs => [wordToken cs]
  | .number cs => [.number (String.ofList cs)]
  | .parameter cs => [.parameter (String.ofList cs)]
  | .quoted _ => [.unknown]
  | .less => [.symbol .less]
  | .greater => [.symbol .greater]

/-- Whether a name can begin with a character. -/
def isLetterChar (c : Char) : Bool := c.isAlpha || c == '_'

/-- Whether a character can go on a name. -/
def isWordChar (c : Char) : Bool := isLetterChar c || c.isDigit

/-- The symbol that a character is, whatever follows it. -/
def symbol? (c : Char) : Option Symbol :=
  match c with
  | '(' => some .opening
  | ')' => some .closing
  | '.' => some .dot
  | '=' => some .equal
  | '+' => some .plus
  | '-' => some .minus
  | '*' => some .star
  | '/' => some .slash
  | _ => none

/-- Begin a token at a character: the tokens that it finishes, and what is pending after it. -/
def beginToken (c : Char) : List Token × Pending :=
  if c = ' ' ∨ c = '\n' then ([], .idle)
  else if isLetterChar c then ([], .word [c])
  else if c.isDigit then ([], .number [c])
  else if c = ':' then ([], .parameter [])
  else if c = '\'' then ([], .quoted [])
  else if c = '<' then ([], .less)
  else if c = '>' then ([], .greater)
  else match symbol? c with
    | some s => ([.symbol s], .idle)
    | none => ([.unknown], .idle)

/-- Finish the pending token and begin the next one. -/
def finishToken (pending : Pending) (c : Char) : List Token × Pending :=
  (pending.tokens ++ (beginToken c).1, (beginToken c).2)

/-- Read one character. -/
def readChar (pending : Pending) (c : Char) : List Token × Pending :=
  match pending with
  | .idle => beginToken c
  | .word cs => if isWordChar c then ([], .word (cs ++ [c])) else finishToken pending c
  | .number cs =>
    if c.isDigit || c == '.' then ([], .number (cs ++ [c])) else finishToken pending c
  | .parameter cs => if isWordChar c then ([], .parameter (cs ++ [c])) else finishToken pending c
  | .quoted cs =>
    if c = '\'' then ([.quoted (String.ofList cs)], .idle) else ([], .quoted (cs ++ [c]))
  | .less => if c = '=' then ([.symbol .atMost], .idle) else finishToken pending c
  | .greater => if c = '=' then ([.symbol .atLeast], .idle) else finishToken pending c

/-- The tokens of characters that are read from a pending state on. -/
def tokensFrom (pending : Pending) : List Char → List Token
  | [] => pending.tokens
  | c :: rest => (readChar pending c).1 ++ tokensFrom (readChar pending c).2 rest

/-- The tokens of a text. -/
def tokensOf (text : String) : List Token := tokensFrom .idle text.toList

/-- What follows a piece of text does not go on its last token. -/
def Breaks (rest : List Char) : Prop := ∀ c ∈ rest.head?, isWordChar c = false ∧ c ≠ '.'

/-- A text is read as these tokens, wherever it stands, as long as what follows does not go on. -/
def Spells (text : String) (tokens : List Token) : Prop :=
  ∀ rest, Breaks rest → tokensFrom .idle (text.toList ++ rest) = tokens ++ tokensFrom .idle rest

/-- A piece of text is read as these tokens, whatever follows it. -/
def Closes (piece : String) (tokens : List Token) : Prop :=
  ∀ rest, tokensFrom .idle (piece.toList ++ rest) = tokens ++ tokensFrom .idle rest

theorem breaks_nil : Breaks [] := by
  rintro c ⟨⟩

theorem breaks_append {piece : String} (hpiece : Breaks piece.toList) (hne : piece ≠ "")
    (rest : List Char) : Breaks (piece.toList ++ rest) := by
  have hlist : piece.toList ≠ [] := fun hnil => hne (String.toList_eq_nil_iff.mp hnil)
  obtain ⟨c, cs, hcs⟩ := List.exists_cons_of_ne_nil hlist
  rw [hcs] at hpiece ⊢
  exact hpiece

theorem tokensFrom_finish {pending : Pending} {rest : List Char}
    (hfinish : ∀ c ∈ rest.head?, readChar pending c = finishToken pending c) :
    tokensFrom pending rest = pending.tokens ++ tokensFrom .idle rest := by
  cases rest with
  | nil => simp [tokensFrom, Pending.tokens]
  | cons c rest =>
      rw [tokensFrom, hfinish c rfl, finishToken, tokensFrom, List.append_assoc]
      rfl

/-- A token that goes on with certain characters is read up to the first other one. -/
theorem tokensFrom_run (pending : List Char → Pending) (goesOn : Char → Bool)
    (hstep : ∀ acc c, readChar (pending acc) c =
      if goesOn c then ([], pending (acc ++ [c])) else finishToken (pending acc) c)
    (acc : List Char) {cs rest : List Char} (hcs : cs.all goesOn = true)
    (hrest : ∀ c ∈ rest.head?, goesOn c = false) :
    tokensFrom (pending acc) (cs ++ rest) =
      (pending (acc ++ cs)).tokens ++ tokensFrom .idle rest := by
  induction cs generalizing acc with
  | nil =>
      rw [List.nil_append, List.append_nil]
      refine tokensFrom_finish fun c hc => ?_
      rw [hstep, hrest c hc, if_neg Bool.false_ne_true]
  | cons c cs ih =>
      rw [List.all_cons, Bool.and_eq_true] at hcs
      rw [List.cons_append, tokensFrom, hstep, if_pos hcs.1, List.nil_append, ih _ hcs.2,
        List.append_assoc, List.singleton_append]

theorem tokensFrom_word (acc : List Char) {cs rest : List Char} (hcs : cs.all isWordChar = true)
    (hrest : ∀ c ∈ rest.head?, isWordChar c = false) :
    tokensFrom (.word acc) (cs ++ rest) = wordToken (acc ++ cs) :: tokensFrom .idle rest :=
  tokensFrom_run .word isWordChar (fun _ _ => rfl) acc hcs hrest

theorem tokensFrom_parameter (acc : List Char) {cs rest : List Char}
    (hcs : cs.all isWordChar = true) (hrest : ∀ c ∈ rest.head?, isWordChar c = false) :
    tokensFrom (.parameter acc) (cs ++ rest) =
      .parameter (String.ofList (acc ++ cs)) :: tokensFrom .idle rest :=
  tokensFrom_run .parameter isWordChar (fun _ _ => rfl) acc hcs hrest

theorem tokensFrom_number (acc : List Char) {cs rest : List Char}
    (hcs : ∀ c ∈ cs, c.isDigit = true ∨ c = '.') (hrest : Breaks rest) :
    tokensFrom (.number acc) (cs ++ rest) =
      .number (String.ofList (acc ++ cs)) :: tokensFrom .idle rest := by
  refine tokensFrom_run .number (fun c => c.isDigit || c == '.') (fun _ _ => rfl) acc
    (by simpa using hcs) fun c hc => ?_
  obtain ⟨hword, hdot⟩ := hrest c hc
  rw [isWordChar, Bool.or_eq_false_iff] at hword
  simp [hword.2, hdot]

/-- A text that begins with a letter and goes on with letters and digits. -/
def isWord (cs : List Char) : Bool := cs.head?.any isLetterChar && cs.all isWordChar

/-- A word is one token, also before a point. -/
theorem tokensFrom_idle_word {cs rest : List Char} (hcs : isWord cs = true)
    (hrest : ∀ c ∈ rest.head?, isWordChar c = false) :
    tokensFrom .idle (cs ++ rest) = wordToken cs :: tokensFrom .idle rest := by
  obtain ⟨hhead, hall⟩ := Bool.and_eq_true_iff.mp hcs
  cases cs with
  | nil => simp at hhead
  | cons c cs =>
      have hletter : isLetterChar c = true := by simpa using hhead
      have hcs : cs.all isWordChar = true := by
        rw [List.all_cons, Bool.and_eq_true] at hall
        exact hall.2
      have hblank : ¬ (c = ' ' ∨ c = '\n') := by
        rintro (rfl | rfl) <;> simp [isLetterChar] at hletter
      have hbegin : beginToken c = ([], .word [c]) := by
        rw [beginToken, if_neg hblank, if_pos hletter]
      rw [List.cons_append, tokensFrom, readChar, hbegin, List.nil_append,
        tokensFrom_word [c] hcs hrest]
      rfl

/-- A word that is written at the end of a piece. -/
theorem spells_word {s : String} (hs : isWord s.toList = true) :
    Spells s [wordToken s.toList] :=
  fun _ hrest => tokensFrom_idle_word hs fun c hc => (hrest c hc).1

/-- Whether a text is a name: a word, but no keyword. -/
def isName (s : String) : Bool := isWord s.toList && (keyword? s.toList).isNone

theorem tokensFrom_name {s : String} (hs : isName s = true) {rest : List Char}
    (hrest : ∀ c ∈ rest.head?, isWordChar c = false) :
    tokensFrom .idle (s.toList ++ rest) = .name s :: tokensFrom .idle rest := by
  obtain ⟨hword, hkeyword⟩ := Bool.and_eq_true_iff.mp hs
  rw [tokensFrom_idle_word hword hrest, wordToken, Option.isNone_iff_eq_none.mp hkeyword,
    String.ofList_toList]

theorem spells_name {s : String} (hs : isName s = true) : Spells s [.name s] :=
  fun _ hrest => tokensFrom_name hs fun c hc => (hrest c hc).1

/-- A column with the name of its table before it. -/
theorem spells_column {table column : String} (htable : isName table = true)
    (hcolumn : isName column = true) :
    Spells (table ++ "." ++ column) [.name table, .symbol .dot, .name column] := by
  intro rest hrest
  have hdot : tokensFrom .idle ('.' :: (column.toList ++ rest)) =
      .symbol .dot :: tokensFrom .idle (column.toList ++ rest) := rfl
  rw [String.toList_append, String.toList_append, List.append_assoc, List.append_assoc,
    tokensFrom_name htable]
  · change .name table :: tokensFrom .idle ('.' :: (column.toList ++ rest)) = _
    rw [hdot, spells_name hcolumn rest hrest]
    rfl
  · rintro c ⟨⟩
    rfl

theorem spells_parameter {name : String} (hname : name.toList.all isWordChar = true) :
    Spells (":" ++ name) [.parameter name] := by
  intro rest hrest
  have hcolon : tokensFrom .idle (':' :: (name.toList ++ rest)) =
      tokensFrom (.parameter []) (name.toList ++ rest) := rfl
  rw [String.toList_append, List.append_assoc]
  change tokensFrom .idle (':' :: (name.toList ++ rest)) = _
  rw [hcolon, tokensFrom_parameter [] hname fun c hc => (hrest c hc).1, List.nil_append,
    String.ofList_toList]
  rfl

/-- Whether characters are those of a number: digits, and points behind the first one. -/
def isNumeral (cs : List Char) : Bool :=
  cs.head?.any Char.isDigit && cs.all fun c => c.isDigit || c == '.'

theorem isLetterChar_of_isDigit {c : Char} (hc : c.isDigit = true) : isLetterChar c = false := by
  have halpha : c.isAlpha = (decide ('A'.val ≤ c.val ∧ c.val ≤ 'Z'.val) ||
      (decide ('a'.val ≤ c.val) && decide (c.val ≤ 'z'.val))) := rfl
  have hdigit : '0'.val ≤ c.val ∧ c.val ≤ '9'.val := by
    simpa [Char.isDigit] using hc
  rw [isLetterChar, Bool.or_eq_false_iff, beq_eq_false_iff_ne]
  constructor
  · grind
  · rintro rfl
    simp at hc

theorem spells_number {s : String} (hs : isNumeral s.toList = true) : Spells s [.number s] := by
  intro rest hrest
  obtain ⟨hhead, hall⟩ := Bool.and_eq_true_iff.mp hs
  cases hlist : s.toList with
  | nil => simp [hlist] at hhead
  | cons c cs =>
      have hdigit : c.isDigit = true := by simpa [hlist] using hhead
      have hcs : ∀ d ∈ cs, d.isDigit = true ∨ d = '.' := by
        intro d hd
        have hmem := List.all_eq_true.mp hall d (hlist ▸ List.mem_cons_of_mem c hd)
        simpa using hmem
      have hblank : ¬ (c = ' ' ∨ c = '\n') := by
        rintro (rfl | rfl) <;> simp at hdigit
      have hbegin : beginToken c = ([], .number [c]) := by
        rw [beginToken, if_neg hblank, isLetterChar_of_isDigit hdigit, if_neg Bool.false_ne_true,
          if_pos hdigit]
      rw [List.cons_append, tokensFrom, readChar, hbegin, List.nil_append,
        tokensFrom_number [c] hcs hrest, List.singleton_append, ← hlist, String.ofList_toList]
      rfl

variable {a b piece : String} {ta tb tp : List Token}

theorem Closes.spells (hpiece : Closes piece tp) : Spells piece tp := fun rest _ => hpiece rest

/-- A piece that closes may stand before anything. -/
theorem Closes.append (hpiece : Closes piece tp) (hb : Spells b tb) :
    Spells (piece ++ b) (tp ++ tb) := by
  intro rest hrest
  rw [String.toList_append, List.append_assoc, hpiece, hb rest hrest, List.append_assoc]

/-- A piece does not go on what stands before it. -/
structure Parts (piece : String) : Prop where
  breaks : Breaks piece.toList
  nonempty : piece ≠ ""

/-- A piece of text behind another one. -/
theorem Spells.append (ha : Spells a ta) (hparts : Parts piece) (hpiece : Spells piece tp) :
    Spells (a ++ piece) (ta ++ tp) := by
  intro rest hrest
  rw [String.toList_append, List.append_assoc,
    ha _ (breaks_append hparts.breaks hparts.nonempty rest), hpiece rest hrest, List.append_assoc]

theorem Spells.append_closes (ha : Spells a ta) (hparts : Parts piece) (hpiece : Closes piece tp) :
    Closes (a ++ piece) (ta ++ tp) := by
  intro rest
  rw [String.toList_append, List.append_assoc,
    ha _ (breaks_append hparts.breaks hparts.nonempty rest), hpiece rest, List.append_assoc]

end PhotoCatalog.Sql
