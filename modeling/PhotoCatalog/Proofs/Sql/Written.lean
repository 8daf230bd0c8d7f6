import Mathlib.Data.List.Forall2
import PhotoCatalog.Proofs.Sql.Grammar

/-!
How expressions are written.  Each rule says which text is read as an expression that is put
together from others, given texts that are read as these; where the text has a parameter, the
expression has the value that is bound to it.
-/

namespace PhotoCatalog.Sql

/-- The expression with parameters replaced by the values that are bound to them. -/
def Expr.bound (params : List (String × Value)) : Expr → Expr
  | .parameter name => ((params.lookup name).map Expr.value).getD (.parameter name)
  | .call function argument => .call function (argument.bound params)
  | .negated operand => .negated (operand.bound params)
  | .collated text order => .collated (text.bound params) order
  | .binary op left right => .binary op (left.bound params) (right.bound params)
  | .like text pattern escape =>
    .like (text.bound params) (pattern.bound params) (escape.bound params)
  | .between operand low high =>
    .between (operand.bound params) (low.bound params) (high.bound params)
  | .isNotNull operand => .isNotNull (operand.bound params)
  | .existsRow table name condition => .existsRow table name (condition.bound params)
  | e => e

/-- The text is read as an expression that is this one once its parameters have their values, and
all of whose operators outside of parentheses bind with at least this power. -/
def Written (params : List (String × Value)) (power : Nat) (text : String) (e : Expr) : Prop :=
  ∃ tokens form, Spells text tokens ∧ Phrase power tokens form ∧ form.bound params = e

/-- How an operator is written between its operands. -/
def Operator.written : Operator → String
  | .or => " OR "
  | .and => " AND "
  | .equal => " = "
  | .less => " < "
  | .atMost => " <= "
  | .greater => " > "
  | .atLeast => " >= "
  | .plus => " + "
  | .minus => " - "
  | .times => " * "
  | .over => " / "

def Operator.token : Operator → Token
  | .or => .keyword .or
  | .and => .keyword .and
  | .equal => .symbol .equal
  | .less => .symbol .less
  | .atMost => .symbol .atMost
  | .greater => .symbol .greater
  | .atLeast => .symbol .atLeast
  | .plus => .symbol .plus
  | .minus => .symbol .minus
  | .times => .symbol .star
  | .over => .symbol .slash

theorem Operator.link?_token (op : Operator) : op.token.link? = some (.operator op) := by
  cases op <;> rfl

/-- A piece of text writes an operator between its operands. -/
structure Joins (op : Operator) (piece : String) : Prop extends Parts piece where
  closes : Closes piece [op.token]

theorem Operator.joins (op : Operator) : Joins op op.written where
  breaks := by cases op <;> (rintro c ⟨⟩; decide)
  nonempty := by cases op <;> decide
  closes := by cases op <;> exact fun _ => rfl

variable {params : List (String × Value)} {power power' : Nat} {a b c piece : String}
  {ea eb ec : Expr}

theorem Written.weaken (ha : Written params power a ea) (hle : power' ≤ power) :
    Written params power' a ea := by
  obtain ⟨ta, fa, hspells, hphrase, hbound⟩ := ha
  exact ⟨ta, fa, hspells, hphrase.weaken hle, hbound⟩

theorem Written.of_toList (ha : Written params power a ea) (hsame : b.toList = a.toList) :
    Written params power b ea :=
  String.toList_inj.mp hsame ▸ ha

theorem written_column {table column : String} (htable : isName table = true)
    (hcolumn : isName column = true) :
    Written params operandPower (table ++ "." ++ column) (.column table column) :=
  ⟨_, _, spells_column htable hcolumn, phrase_column table column, rfl⟩

theorem written_parameter {name : String} {value : Value}
    (hname : name.toList.all isWordChar = true) (hvalue : params.lookup name = some value) :
    Written params operandPower (":" ++ name) (.value value) := by
  refine ⟨_, _, spells_parameter hname, phrase_parameter name, ?_⟩
  rw [Expr.bound, hvalue]
  rfl

theorem written_number {digits : String} (hdigits : isNumeral digits.toList = true) :
    Written params operandPower digits (.number digits) :=
  ⟨_, _, spells_number hdigits, phrase_number digits, rfl⟩

theorem written_negated {digits : String} (hdigits : isNumeral digits.toList = true) :
    Written params Operator.times.power ("-" ++ digits) (.negated (.number digits)) := by
  have hminus : Closes "-" [.symbol .minus] := fun _ => rfl
  exact ⟨_, _, hminus.append (spells_number hdigits), phrase_negated digits, rfl⟩

/-- Two operands with an operator between them that binds weaker than the right one, and not
stronger than the left one. -/
theorem Written.binary {op : Operator} (hjoins : Joins op piece) (ha : Written params power a ea)
    (hb : Written params power' b eb) (hpower : op.power ≤ power)
    (hpower' : op.power + 1 ≤ power') :
    Written params op.power (a ++ piece ++ b) (.binary op ea eb) := by
  obtain ⟨ta, fa, hspells, hphrase, rfl⟩ := ha
  obtain ⟨tb, fb, hspells', hphrase', rfl⟩ := hb
  refine ⟨ta ++ op.token :: tb, _, ?_, hphrase.binary op.link?_token hphrase' hpower hpower', rfl⟩
  simpa using (hspells.append_closes hjoins.toParts hjoins.closes).append hspells'

theorem Written.isNotNull (ha : Written params power a ea) (hpower : testPower ≤ power) :
    Written params testPower (a ++ " IS NOT NULL") (.isNotNull ea) := by
  obtain ⟨ta, fa, hspells, hphrase, rfl⟩ := ha
  have hparts : Parts " IS NOT NULL" := ⟨by rintro c ⟨⟩; decide, by decide⟩
  have hcloses : Closes " IS NOT " [.keyword .is, .keyword .not] := fun _ => rfl
  have hnull : Spells "NULL" [.keyword .null] := spells_word rfl
  exact ⟨_, _, hspells.append hparts (hcloses.append hnull), hphrase.isNotNull hpower, rfl⟩

/-- A text compared without regard to the case of ASCII letters. -/
theorem Written.collated (ha : Written params power a ea) (hpower : collationPower ≤ power) :
    Written params collationPower (a ++ " COLLATE NOCASE") (.collated ea "NOCASE") := by
  obtain ⟨ta, fa, hspells, hphrase, rfl⟩ := ha
  have hparts : Parts " COLLATE NOCASE" := ⟨by rintro c ⟨⟩; decide, by decide⟩
  have hcloses : Closes " COLLATE " [.keyword .collate] := fun _ => rfl
  have hnocase : Spells "NOCASE" [.name "NOCASE"] := spells_word rfl
  exact ⟨_, _, hspells.append hparts (hcloses.append hnocase), hphrase.collated "NOCASE" hpower,
    rfl⟩

theorem Written.like (ha : Written params power a ea) (hb : Written params power' b eb)
    (hpower : testPower ≤ power) (hpower' : testPower + 1 ≤ power') :
    Written params testPower (a ++ " LIKE " ++ b ++ " ESCAPE '\\'")
      (.like ea eb (.quoted "\\")) := by
  obtain ⟨ta, fa, hspells, hphrase, rfl⟩ := ha
  obtain ⟨tb, fb, hspells', hphrase', rfl⟩ := hb
  have hlike : Closes " LIKE " [.keyword .like] := fun _ => rfl
  have hescape : Closes " ESCAPE '\\'" [.keyword .escape, .quoted "\\"] := fun _ => rfl
  have hparts : Parts " LIKE " := ⟨by rintro c ⟨⟩; decide, by decide⟩
  have hparts' : Parts " ESCAPE '\\'" := ⟨by rintro c ⟨⟩; decide, by decide⟩
  refine ⟨ta ++ .keyword .like :: (tb ++ .keyword .escape :: [.quoted "\\"]), _, ?_,
    hphrase.like hphrase' (phrase_quoted "\\") hpower hpower', rfl⟩
  simpa using ((hspells.append_closes hparts hlike).append hspells').append hparts' hescape.spells

theorem Written.between (ha : Written params power a ea) (hb : Written params power' b eb)
    (hc : Written params power' c ec) (hpower : testPower ≤ power)
    (hpower' : testPower + 1 ≤ power') :
    Written params testPower (a ++ " BETWEEN " ++ b ++ " AND " ++ c) (.between ea eb ec) := by
  obtain ⟨ta, fa, hspells, hphrase, rfl⟩ := ha
  obtain ⟨tb, fb, hspells', hphrase', rfl⟩ := hb
  obtain ⟨tc, fc, hspells'', hphrase'', rfl⟩ := hc
  have hbetween : Closes " BETWEEN " [.keyword .between] := fun _ => rfl
  have hparts : Parts " BETWEEN " := ⟨by rintro c ⟨⟩; decide, by decide⟩
  have hand : Closes " AND " [.keyword .and] := fun _ => rfl
  have hparts' : Parts " AND " := Operator.and.joins.toParts
  refine ⟨ta ++ .keyword .between :: (tb ++ .keyword .and :: tc), _, ?_,
    hphrase.between hphrase' hphrase'' hpower hpower', rfl⟩
  have hlow := (hspells.append_closes hparts hbetween).append hspells'
  simpa using (hlow.append_closes hparts' hand).append hspells''

theorem parts_closing : Parts ")" := ⟨by rintro c ⟨⟩; decide, by decide⟩

theorem closes_closing : Closes ")" [.symbol .closing] := fun _ => rfl

theorem Written.enclosed (ha : Written params power a ea) (hpower : 1 ≤ power) :
    Written params operandPower ("(" ++ a ++ ")") ea := by
  obtain ⟨ta, fa, hspells, hphrase, hbound⟩ := ha
  have hopening : Closes "(" [.symbol .opening] := fun _ => rfl
  exact ⟨_, _, (hopening.append hspells).append parts_closing closes_closing.spells,
    hphrase.enclosed hpower, hbound⟩

theorem Written.call {function : String} (hfunction : isName function = true)
    (ha : Written params power a ea) (hpower : 1 ≤ power) :
    Written params operandPower (function ++ "(" ++ a ++ ")") (.call function ea) := by
  obtain ⟨ta, fa, hspells, hphrase, rfl⟩ := ha
  have hparts : Parts "(" := ⟨by rintro c ⟨⟩; decide, by decide⟩
  have hopening : Closes "(" [.symbol .opening] := fun _ => rfl
  have hbegin := (spells_name hfunction).append_closes hparts hopening
  exact ⟨_, _, (hbegin.append hspells).append parts_closing closes_closing.spells,
    hphrase.call function hpower, rfl⟩

theorem Written.existsRow {table name : String} (htable : isName table = true)
    (hname : isName name = true) (ha : Written params power a ea) (hpower : 1 ≤ power) :
    Written params operandPower
      ("EXISTS (SELECT 1 FROM " ++ table ++ " " ++ name ++ " WHERE " ++ a ++ ")")
      (.existsRow table name ea) := by
  obtain ⟨ta, fa, hspells, hphrase, rfl⟩ := ha
  have hfrom : Closes "EXISTS (SELECT 1 FROM " [.keyword .exists, .symbol .opening,
      .keyword .select, .number "1", .keyword .from] := fun _ => rfl
  have hblank : Closes " " [] := fun _ => rfl
  have hwhere : Closes " WHERE " [.keyword .where] := fun _ => rfl
  have hparts : Parts " " := ⟨by rintro c ⟨⟩; decide, by decide⟩
  have hparts' : Parts " WHERE " := ⟨by rintro c ⟨⟩; decide, by decide⟩
  have hnames := ((hfrom.append (spells_name htable)).append_closes hparts hblank).append
    (spells_name hname)
  have hall := ((hnames.append_closes hparts' hwhere).append hspells).append parts_closing
    closes_closing.spells
  exact ⟨_, _, hall, hphrase.existsRow table name hpower, rfl⟩

/-- The expression that operands make up from the left. -/
def chain (op : Operator) (e : Expr) (others : List Expr) : Expr := others.foldl (.binary op) e

/-- Operands that bind stronger than an operator make up an expression when they are written one
after the other with the operator between them. -/
theorem Written.chain {op : Operator} (hjoins : Joins op piece) {texts : List String}
    {es : List Expr} (ha : Written params op.power a ea)
    (hothers : List.Forall₂ (Written params (op.power + 1)) texts es) :
    Written params op.power (piece.intercalate (a :: texts)) (Sql.chain op ea es) := by
  induction hothers generalizing a ea with
  | nil =>
      rw [String.intercalate_singleton]
      exact ha
  | @cons b eb texts es hb _ ih =>
      have hjoined : piece.intercalate (a :: b :: texts) =
          piece.intercalate ((a ++ piece ++ b) :: texts) := by
        rw [String.intercalate_cons_cons, String.intercalate_cons_append]
      rw [hjoined]
      exact ih (ha.binary hjoins hb (Nat.le_refl _) (Nat.le_refl _))

/-- A text that is read as an expression spells it. -/
theorem Written.readText (ha : Written params power a ea) (hpower : 1 ≤ power) :
    ∃ e, readText a = some e ∧ e.bound params = ea := by
  obtain ⟨ta, fa, hspells, hphrase, hbound⟩ := ha
  refine ⟨fa, ?_, hbound⟩
  have htokens : tokensOf a = ta := by
    have hall := hspells [] breaks_nil
    rw [List.append_nil] at hall
    rw [tokensOf, hall]
    exact List.append_nil ta
  have hstops : StopsAt 1 [] := by
    rintro token ⟨⟩
  have hread := hphrase.read hpower (Nat.le_refl _) hstops
  rw [List.append_nil] at hread
  simp only [Sql.readText, htokens, hread]

end PhotoCatalog.Sql
