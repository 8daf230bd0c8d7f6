import PhotoCatalog.Proofs.Sql.Token
import PhotoCatalog.Value.Basic

/-!
The grammar of conditions.  Operators bind with a power: alternatives weakest, then conjunctions,
then equality together with patterns, ranges and null tests, then order, sums, products, and the
collation of a text strongest; what a range lies between is no conjunction.  A phrase is a list of
tokens that is read as one expression, whatever stands behind it that binds weakly enough.
-/

namespace PhotoCatalog.Sql

inductive Operator where
  | or | and | equal | less | atMost | greater | atLeast | plus | minus | times | over
deriving Repr, DecidableEq

def Operator.power : Operator → Nat
  | .or => 1
  | .and => 2
  | .equal => 3
  | .less | .atMost | .greater | .atLeast => 4
  | .plus | .minus => 5
  | .times | .over => 6

/-- The power of patterns, ranges and null tests. -/
def testPower : Nat := 3

def collationPower : Nat := 7

/-- The power of what stands for itself or is enclosed. -/
def operandPower : Nat := 8

/-- An expression; a parameter may have been replaced by its value. -/
inductive Expr where
  | number (digits : String)
  | quoted (s : String)
  | parameter (name : String)
  | value (v : Value)
  | column (table column : String)
  | call (function : String) (argument : Expr)
  | negated (operand : Expr)
  | collated (text : Expr) (order : String)
  | binary (op : Operator) (left right : Expr)
  | like (text pattern escape : Expr)
  | between (operand low high : Expr)
  | isNotNull (operand : Expr)
  /-- Some row of the table, called by the name, satisfies the condition. -/
  | existsRow (table name : String) (condition : Expr)

/-- The ways in which an expression goes on behind its first operand. -/
inductive Link where
  | operator (op : Operator)
  | nullTest | pattern | range | collation

def Link.power : Link → Nat
  | .operator op => op.power
  | .nullTest | .pattern | .range => testPower
  | .collation => collationPower

/-- The way in which an expression goes on at a token, if it does. -/
def Token.link? : Token → Option Link
  | .keyword .or => some (.operator .or)
  | .keyword .and => some (.operator .and)
  | .keyword .is => some .nullTest
  | .keyword .like => some .pattern
  | .keyword .between => some .range
  | .keyword .collate => some .collation
  | .symbol .equal => some (.operator .equal)
  | .symbol .less => some (.operator .less)
  | .symbol .atMost => some (.operator .atMost)
  | .symbol .greater => some (.operator .greater)
  | .symbol .atLeast => some (.operator .atLeast)
  | .symbol .plus => some (.operator .plus)
  | .symbol .minus => some (.operator .minus)
  | .symbol .star => some (.operator .times)
  | .symbol .slash => some (.operator .over)
  | _ => none

mutual

/-- Read an expression in which every operator outside of parentheses binds with at least this
power; the answer holds the tokens that are left. -/
def readExpr : Nat → Nat → List Token → Option (Expr × List Token)
  | 0, _, _ => none
  | fuel + 1, power, tokens => do
    let (left, rest) ← readOperand fuel tokens
    readMore fuel power left rest

/-- Read an expression without operators outside of parentheses. -/
def readOperand : Nat → List Token → Option (Expr × List Token)
  | 0, _ => none
  | fuel + 1, tokens =>
    match tokens with
    | .number digits :: rest => some (.number digits, rest)
    | .quoted s :: rest => some (.quoted s, rest)
    | .parameter name :: rest => some (.parameter name, rest)
    | .name table :: .symbol .dot :: .name column :: rest => some (.column table column, rest)
    | .name function :: .symbol .opening :: rest => do
      let (argument, rest) ← readEnclosed fuel rest
      return (.call function argument, rest)
    | .symbol .opening :: rest => readEnclosed fuel rest
    | .symbol .minus :: rest => do
      let (operand, rest) ← readExpr fuel collationPower rest
      return (.negated operand, rest)
    | .keyword .exists :: .symbol .opening :: .keyword .select :: .number _ :: .keyword .from ::
        .name table :: .name name :: .keyword .where :: rest => do
      let (condition, rest) ← readEnclosed fuel rest
      return (.existsRow table name condition, rest)
    | _ => none

/-- Read an expression up to a closing parenthesis. -/
def readEnclosed : Nat → List Token → Option (Expr × List Token)
  | 0, _ => none
  | fuel + 1, tokens => do
    match ← readExpr fuel 1 tokens with
    | (inner, .symbol .closing :: rest) => some (inner, rest)
    | _ => none

/-- Read what belongs to a link behind the expression that it goes on with. -/
def readLink : Nat → Link → Expr → List Token → Option (Expr × List Token)
  | 0, _, _, _ => none
  | fuel + 1, .operator op, left, tokens => do
    let (right, rest) ← readExpr fuel (op.power + 1) tokens
    return (.binary op left right, rest)
  | _ + 1, .nullTest, left, tokens =>
    match tokens with
    | .keyword .not :: .keyword .null :: rest => some (.isNotNull left, rest)
    | _ => none
  | fuel + 1, .pattern, left, tokens => do
    match ← readExpr fuel (testPower + 1) tokens with
    | (pattern, .keyword .escape :: rest) =>
      let (escape, rest) ← readExpr fuel (testPower + 1) rest
      return (.like left pattern escape, rest)
    | _ => none
  | fuel + 1, .range, left, tokens => do
    match ← readExpr fuel (testPower + 1) tokens with
    | (low, .keyword .and :: rest) =>
      let (high, rest) ← readExpr fuel (testPower + 1) rest
      return (.between left low high, rest)
    | _ => none
  | _ + 1, .collation, left, tokens =>
    match tokens with
    | .name order :: rest => some (.collated left order, rest)
    | _ => none

/-- Go on with an expression, as long as what follows binds with at least this power. -/
def readMore : Nat → Nat → Expr → List Token → Option (Expr × List Token)
  | 0, _, _, _ => none
  | _ + 1, _, left, [] => some (left, [])
  | fuel + 1, power, left, token :: rest =>
    match token.link? with
    | none => some (left, token :: rest)
    | some link =>
      if link.power < power then some (left, token :: rest)
      else do
        let (left, rest) ← readLink fuel link left rest
        readMore fuel power left rest

end

/-- The expression that a text spells.  A reading within another one takes a token, and three steps
lead there from one reading. -/
def readText (text : String) : Option Expr :=
  let tokens := tokensOf text
  match readExpr (3 * tokens.length + 3) 1 tokens with
  | some (e, []) => some e
  | _ => none

/-- What stands behind an expression binds weaker than this. -/
def StopsAt (power : Nat) (rest : List Token) : Prop :=
  ∀ token ∈ rest.head?, ∀ link ∈ token.link?, link.power < power

/-- The tokens are read as the expression, all of whose operators outside of parentheses bind with
at least this power.  Reading goes on behind the expression with enough steps left. -/
def Phrase (power : Nat) (tokens : List Token) (e : Expr) : Prop :=
  ∀ least ≤ power, ∀ fuel, 3 * tokens.length + 3 ≤ fuel → ∀ rest, StopsAt (power + 1) rest →
    ∃ left, fuel ≤ left + 3 * tokens.length ∧
      readExpr fuel least (tokens ++ rest) = readMore left least e rest

theorem StopsAt.mono {power power' : Nat} {rest : List Token} (hstops : StopsAt power rest)
    (hle : power ≤ power') : StopsAt power' rest :=
  fun token htoken link hlink => Nat.lt_of_lt_of_le (hstops token htoken link hlink) hle

theorem readMore_stops {fuel power : Nat} {e : Expr} {rest : List Token} (hfuel : 0 < fuel)
    (hstops : StopsAt power rest) : readMore fuel power e rest = some (e, rest) := by
  obtain ⟨fuel, rfl⟩ := Nat.exists_eq_succ_of_ne_zero (Nat.ne_of_gt hfuel)
  cases rest with
  | nil => rw [readMore]
  | cons token rest =>
      rw [readMore]
      cases hlink : token.link? with
      | none => rfl
      | some link => exact if_pos (hstops token rfl link hlink)

variable {power power' fuel : Nat} {e e' : Expr} {ts ts' rest : List Token}

/-- A phrase is read to its end when what follows binds too weakly to go on. -/
theorem Phrase.read (hphrase : Phrase power ts e) {least : Nat} (hleast : least ≤ power)
    (hfuel : 3 * ts.length + 3 ≤ fuel) (hstops : StopsAt least rest) :
    readExpr fuel least (ts ++ rest) = some (e, rest) := by
  obtain ⟨left, hleft, hread⟩ :=
    hphrase least hleast fuel hfuel rest (hstops.mono (Nat.le_succ_of_le hleast))
  rw [hread, readMore_stops (by omega) hstops]

theorem Phrase.weaken (hphrase : Phrase power ts e) (hle : power' ≤ power) : Phrase power' ts e :=
  fun least hleast fuel hfuel rest hstops =>
    hphrase least (Nat.le_trans hleast hle) fuel hfuel rest (hstops.mono (Nat.succ_le_succ hle))

/-- Tokens that are read as an operand. -/
theorem phrase_of_operand (hne : ts ≠ [])
    (hread : ∀ fuel rest, 3 * ts.length + 2 ≤ fuel → StopsAt (power + 1) rest →
      readOperand fuel (ts ++ rest) = some (e, rest)) : Phrase power ts e := by
  intro least _ fuel hfuel rest hstops
  have hlength : 0 < ts.length := List.length_pos_iff.mpr hne
  obtain ⟨fuel, rfl⟩ : ∃ n, fuel = n + 1 := ⟨fuel - 1, by omega⟩
  refine ⟨fuel, by omega, ?_⟩
  rw [readExpr, hread fuel rest (by omega) hstops]
  rfl

theorem phrase_number (digits : String) :
    Phrase operandPower [.number digits] (.number digits) := by
  apply phrase_of_operand (by simp)
  intro fuel rest hfuel _
  obtain ⟨fuel, rfl⟩ := Nat.exists_eq_succ_of_ne_zero (n := fuel) (by omega)
  rfl

theorem phrase_quoted (s : String) : Phrase operandPower [.quoted s] (.quoted s) := by
  apply phrase_of_operand (by simp)
  intro fuel rest hfuel _
  obtain ⟨fuel, rfl⟩ := Nat.exists_eq_succ_of_ne_zero (n := fuel) (by omega)
  rfl

theorem phrase_parameter (name : String) :
    Phrase operandPower [.parameter name] (.parameter name) := by
  apply phrase_of_operand (by simp)
  intro fuel rest hfuel _
  obtain ⟨fuel, rfl⟩ := Nat.exists_eq_succ_of_ne_zero (n := fuel) (by omega)
  rfl

theorem phrase_column (table column : String) :
    Phrase operandPower [.name table, .symbol .dot, .name column] (.column table column) := by
  apply phrase_of_operand (by simp)
  intro fuel rest hfuel _
  obtain ⟨fuel, rfl⟩ := Nat.exists_eq_succ_of_ne_zero (n := fuel) (by omega)
  rfl

theorem stopsAt_closing : StopsAt power (.symbol .closing :: rest) := by
  rintro token ⟨⟩ link ⟨⟩

/-- What is enclosed is read up to the closing parenthesis. -/
theorem Phrase.read_enclosed (hphrase : Phrase power ts e) (hpower : 1 ≤ power)
    (hfuel : 3 * ts.length + 4 ≤ fuel) :
    readEnclosed fuel (ts ++ .symbol .closing :: rest) = some (e, rest) := by
  obtain ⟨fuel, rfl⟩ := Nat.exists_eq_succ_of_ne_zero (n := fuel) (by omega)
  rw [readEnclosed, hphrase.read hpower (by omega) stopsAt_closing]
  rfl

theorem Phrase.enclosed (hphrase : Phrase power ts e) (hpower : 1 ≤ power) :
    Phrase operandPower ([.symbol .opening] ++ ts ++ [.symbol .closing]) e := by
  apply phrase_of_operand (by simp)
  intro fuel rest hfuel _
  obtain ⟨fuel, rfl⟩ := Nat.exists_eq_succ_of_ne_zero (n := fuel) (by omega)
  simp only [List.length_append, List.length_singleton] at hfuel
  rw [List.append_assoc, List.append_assoc, List.singleton_append, List.singleton_append,
    readOperand, hphrase.read_enclosed hpower (by omega)]

theorem Phrase.call (function : String) (hphrase : Phrase power ts e) (hpower : 1 ≤ power) :
    Phrase operandPower ([.name function, .symbol .opening] ++ ts ++ [.symbol .closing])
      (.call function e) := by
  apply phrase_of_operand (by simp)
  intro fuel rest hfuel _
  obtain ⟨fuel, rfl⟩ := Nat.exists_eq_succ_of_ne_zero (n := fuel) (by omega)
  simp only [List.length_append, List.length_cons, List.length_nil] at hfuel
  simp only [List.append_assoc, List.cons_append, List.nil_append]
  rw [readOperand, hphrase.read_enclosed hpower (by omega)]
  rfl

/-- The opening of a query for the rows of a table, up to its condition. -/
def existsOpening (table name : String) : List Token :=
  [.keyword .exists, .symbol .opening, .keyword .select, .number "1", .keyword .from, .name table,
    .name name, .keyword .where]

theorem Phrase.existsRow (table name : String) (hphrase : Phrase power ts e) (hpower : 1 ≤ power) :
    Phrase operandPower (existsOpening table name ++ ts ++ [.symbol .closing])
      (.existsRow table name e) := by
  apply phrase_of_operand (by simp)
  intro fuel rest hfuel _
  obtain ⟨fuel, rfl⟩ := Nat.exists_eq_succ_of_ne_zero (n := fuel) (by omega)
  simp only [existsOpening, List.length_append, List.length_cons, List.length_nil] at hfuel
  simp only [existsOpening, List.append_assoc, List.cons_append, List.nil_append]
  rw [readOperand, hphrase.read_enclosed hpower (by omega)]
  rfl

/-- A phrase that a link goes on with, once the link has been read. -/
theorem Phrase.extend {token : Token} {link : Link} (hphrase : Phrase power ts e)
    (hlink : token.link? = some link) (hpower : link.power ≤ power)
    (hread : ∀ fuel rest, 3 * ts'.length + 4 ≤ fuel → StopsAt (link.power + 1) rest →
      readLink fuel link e (ts' ++ rest) = some (e', rest)) :
    Phrase link.power (ts ++ token :: ts') e' := by
  intro least hleast fuel hfuel rest hstops
  simp only [List.length_append, List.length_cons] at hfuel ⊢
  have hnext : StopsAt (power + 1) (token :: (ts' ++ rest)) := by
    rintro _ ⟨⟩ other hother
    rw [hlink] at hother
    obtain rfl := Option.some.inj hother
    exact Nat.lt_succ_of_le hpower
  obtain ⟨left, hleft, hexpr⟩ :=
    hphrase least (Nat.le_trans hleast hpower) fuel (by omega) _ hnext
  obtain ⟨left, rfl⟩ := Nat.exists_eq_succ_of_ne_zero (n := left) (by omega)
  refine ⟨left, by omega, ?_⟩
  rw [List.append_assoc, List.cons_append, hexpr, readMore, hlink]
  simp only [if_neg (Nat.not_lt.mpr hleast), hread left rest (by omega) hstops]
  rfl

theorem Phrase.binary {op : Operator} {token : Token} (hlink : token.link? = some (.operator op))
    (hleft : Phrase power ts e) (hright : Phrase power' ts' e') (hpower : op.power ≤ power)
    (hpower' : op.power + 1 ≤ power') :
    Phrase op.power (ts ++ token :: ts') (.binary op e e') := by
  apply hleft.extend hlink hpower
  intro fuel rest hfuel hstops
  obtain ⟨fuel, rfl⟩ := Nat.exists_eq_succ_of_ne_zero (n := fuel) (by omega)
  rw [readLink, hright.read hpower' (by omega) hstops]
  rfl

theorem Phrase.isNotNull (hphrase : Phrase power ts e) (hpower : testPower ≤ power) :
    Phrase testPower (ts ++ [.keyword .is, .keyword .not, .keyword .null]) (.isNotNull e) := by
  have hlink : Token.link? (.keyword .is) = some .nullTest := rfl
  apply hphrase.extend hlink hpower
  intro fuel rest hfuel _
  obtain ⟨fuel, rfl⟩ := Nat.exists_eq_succ_of_ne_zero (n := fuel) (by omega)
  rfl

theorem Phrase.collated (order : String) (hphrase : Phrase power ts e)
    (hpower : collationPower ≤ power) :
    Phrase collationPower (ts ++ [.keyword .collate, .name order]) (.collated e order) := by
  have hlink : Token.link? (.keyword .collate) = some .collation := rfl
  apply hphrase.extend hlink hpower
  intro fuel rest hfuel _
  obtain ⟨fuel, rfl⟩ := Nat.exists_eq_succ_of_ne_zero (n := fuel) (by omega)
  rfl

variable {e'' : Expr} {ts'' : List Token}

theorem stopsAt_escape : StopsAt power (.keyword .escape :: rest) := by
  rintro token ⟨⟩ link ⟨⟩

/-- The conjunction word ends what a range begins with. -/
theorem stopsAt_and (hpower : 2 < power) : StopsAt power (.keyword .and :: rest) := by
  rintro token ⟨⟩ link ⟨⟩
  exact hpower

theorem Phrase.like (htext : Phrase power ts e) (hpattern : Phrase power' ts' e')
    (hescape : Phrase operandPower ts'' e'') (hpower : testPower ≤ power)
    (hpower' : testPower + 1 ≤ power') :
    Phrase testPower (ts ++ .keyword .like :: (ts' ++ .keyword .escape :: ts''))
      (.like e e' e'') := by
  have hlink : Token.link? (.keyword .like) = some .pattern := rfl
  apply htext.extend hlink hpower
  intro fuel rest hfuel hstops
  obtain ⟨fuel, rfl⟩ := Nat.exists_eq_succ_of_ne_zero (n := fuel) (by omega)
  simp only [List.length_append, List.length_cons] at hfuel
  rw [List.append_assoc, List.cons_append, readLink,
    hpattern.read hpower' (by omega) stopsAt_escape]
  simp only [Option.bind_eq_bind, Option.bind_some]
  have hread : readExpr fuel (testPower + 1) (ts'' ++ rest) = some (e'', rest) :=
    hescape.read (by decide) (by omega) hstops
  rw [hread]
  rfl

/-- What a range lies between binds stronger than the conjunction word in it, so that word belongs
to the range. -/
theorem Phrase.between (hoperand : Phrase power ts e) (hlow : Phrase power' ts' e')
    (hhigh : Phrase power' ts'' e'') (hpower : testPower ≤ power)
    (hpower' : testPower + 1 ≤ power') :
    Phrase testPower (ts ++ .keyword .between :: (ts' ++ .keyword .and :: ts''))
      (.between e e' e'') := by
  have hlink : Token.link? (.keyword .between) = some .range := rfl
  apply hoperand.extend hlink hpower
  intro fuel rest hfuel hstops
  obtain ⟨fuel, rfl⟩ := Nat.exists_eq_succ_of_ne_zero (n := fuel) (by omega)
  simp only [List.length_append, List.length_cons] at hfuel
  rw [List.append_assoc, List.cons_append, readLink,
    hlow.read hpower' (by omega) (stopsAt_and (by decide))]
  simp only [Option.bind_eq_bind, Option.bind_some]
  rw [hhigh.read hpower' (by omega) hstops]
  rfl

/-- A number with its sign changed; a collation would belong to the number. -/
theorem phrase_negated (digits : String) :
    Phrase Operator.times.power [.symbol .minus, .number digits] (.negated (.number digits)) := by
  apply phrase_of_operand (by simp)
  intro fuel rest hfuel hstops
  obtain ⟨fuel, rfl⟩ := Nat.exists_eq_succ_of_ne_zero (n := fuel) (by omega)
  simp only [List.length_cons, List.length_nil] at hfuel
  have hread : readExpr fuel collationPower ([.number digits] ++ rest) =
      some (.number digits, rest) :=
    (phrase_number digits).read (by decide) (by simp; omega) hstops
  rw [List.cons_append, readOperand, hread]
  rfl

end PhotoCatalog.Sql
