import PhotoCatalog.Proofs.Json.Number
import PhotoCatalog.Proofs.Json.Text
import PhotoCatalog.Proofs.Outcome
import PhotoCatalog.Proofs.Value.Entries
import PhotoCatalog.Proofs.Value.Short

/-!
Documents put together from pieces.  A list is read from the texts of its items and a mapping from
the texts of its entries, whether or not spaces stand behind the commas and colons, unless a whole
number in them has more digits than the reader takes.
-/

namespace PhotoCatalog.Json

open PhotoCatalog.Number PhotoCatalog.Text

/-- The first character of a value is no space and no closing bracket. -/
def StartsValue (cs : List Char) : Prop :=
  ∃ c tail, cs = c :: tail ∧ isSpace c = false ∧ c ≠ ']'

/-- The first character of a value that is neither a list nor a mapping. -/
def StartsAtom (cs : List Char) : Prop :=
  ∃ c tail, cs = c :: tail ∧ isSpace c = false ∧ c ≠ ']' ∧ c ≠ '[' ∧ c ≠ '\x7b'

variable {fuel room : Nat} {cs rest : List Char} {v : Value}

theorem StartsAtom.value (hstart : StartsAtom cs) : StartsValue cs := by
  obtain ⟨c, tail, hcs, hspace, hclose, -⟩ := hstart
  exact ⟨c, tail, hcs, hspace, hclose⟩

theorem StartsValue.append (hstart : StartsValue cs) : StartsValue (cs ++ rest) := by
  obtain ⟨c, tail, rfl, hc⟩ := hstart
  exact ⟨c, tail ++ rest, rfl, hc⟩

theorem StartsValue.ne_close (hstart : StartsValue cs) {tail : List Char} :
    cs ++ rest ≠ ']' :: tail := by
  obtain ⟨c, _, rfl, -, hclose⟩ := hstart
  exact fun h => hclose (List.cons.inj h).1

theorem startsAtom_digit {c : Char} (hc : c.isDigit = true) : StartsAtom (c :: cs) := by
  have hne : ∀ a : Char, a.isDigit = false → c ≠ a := fun _ ha => ne_of_isDigit hc ha
  refine ⟨c, cs, rfl, ?_, hne _ rfl, hne _ rfl, hne _ rfl⟩
  simp only [isSpace, Bool.or_eq_false_iff, beq_eq_false_iff_ne]
  exact ⟨⟨⟨hne _ rfl, hne _ rfl⟩, hne _ rfl⟩, hne _ rfl⟩

theorem startsAtom_signed {negative : Bool} (hhead : ∃ c tail, cs = c :: tail ∧ c.isDigit = true) :
    StartsAtom (if negative then '-' :: cs else cs) := by
  obtain ⟨c, tail, rfl, hc⟩ := hhead
  cases negative with
  | false => exact startsAtom_digit hc
  | true => exact ⟨'-', _, rfl, rfl, by decide, by decide, by decide⟩

theorem startsAtom_toString (n : Int) : StartsAtom (toString n).toList := by
  rw [toList_toString]
  exact startsAtom_signed (digitsOf_starts n.natAbs)

theorem skipSpace_of_starts (hstart : StartsValue cs) : skipSpace (cs ++ rest) = cs ++ rest := by
  obtain ⟨c, tail, rfl, hspace, -⟩ := hstart
  rw [skipSpace, List.cons_append, List.dropWhile_cons, hspace]
  rfl

theorem skipSpace_comma : skipSpace (',' :: cs) = ',' :: cs := rfl

theorem skipSpace_colon : skipSpace (':' :: cs) = ':' :: cs := rfl

theorem readValue_atom (hstart : StartsAtom cs) :
    readValue (fuel + 1) room (cs ++ rest) = readAtom (cs ++ rest) := by
  obtain ⟨c, tail, rfl, -, -, hlist, hmap⟩ := hstart
  rw [List.cons_append, readValue]
  · rintro _ h
    exact hlist (List.cons.inj h).1
  · rintro _ h
    exact hmap (List.cons.inj h).1

/-- What reading a written value comes to: the value and what stands behind it, or the fault of a
whole number that is too long. -/
def outcome (v : Value) (rest : List Char) : Except Fault (Value × List Char) :=
  if v.Short then .ok (v, rest) else .error .malformedNumber

theorem outcome_short (hshort : v.Short) : outcome v rest = .ok (v, rest) := if_pos hshort

theorem outcome_long (hlong : ¬ v.Short) : outcome v rest = .error .malformedNumber := if_neg hlong

/-- A value is read from a text, as far as its whole numbers allow. -/
def ReadsFrom (room : Nat) (text : String) (v : Value) : Prop :=
  StartsValue text.toList ∧
    ∀ fuel rest, 2 * text.toList.length ≤ fuel → EndsNumber rest →
      readValue fuel room (text.toList ++ rest) = outcome v rest

variable {text : String}

theorem readsFrom_atom (hstart : StartsAtom text.toList)
    (hread : ∀ rest, EndsNumber rest → readAtom (text.toList ++ rest) = outcome v rest) :
    ReadsFrom room text v := by
  refine ⟨hstart.value, ?_⟩
  intro fuel rest hfuel hrest
  cases fuel with
  | zero =>
      obtain ⟨c, tail, hcs, -⟩ := hstart
      rw [hcs, List.length_cons] at hfuel
      omega
  | succ fuel => rw [readValue_atom hstart, hread rest hrest]

theorem readsFrom_null : ReadsFrom room "null" .null := by
  apply readsFrom_atom
  · exact ⟨'n', _, rfl, rfl, by decide, by decide, by decide⟩
  · intro rest _
    rw [outcome_short Value.short_null]
    rfl

theorem readsFrom_int (n : Int) : ReadsFrom room (toString n) (.int n) := by
  apply readsFrom_atom (startsAtom_toString n)
  intro rest hrest
  rw [readAtom_toString n hrest]
  simp only [outcome, Value.short_int]

theorem toList_writeTextWith {escape : Char → List Char} (s : String) :
    (writeTextWith escape s).toList = '"' :: (s.toList.flatMap escape ++ ['"']) :=
  String.toList_ofList

theorem readsFrom_text {escape : Char → List Char} (hescape : Faithful escape) (s : String) :
    ReadsFrom room (writeTextWith escape s) (.text s) := by
  apply readsFrom_atom
  · rw [toList_writeTextWith]
    exact ⟨'"', _, rfl, rfl, by decide, by decide, by decide⟩
  · intro rest _
    rw [outcome_short (Value.short_text s), toList_writeTextWith, List.cons_append,
      List.append_assoc, readAtom]
    change (readText (s.toList.flatMap escape ++ '"' :: rest)).map _ = _
    rw [readText_writeText hescape]
    rfl

theorem endsNumber_cons {c : Char} (hc : c = ',' ∨ c = ']' ∨ c = '\x7d') :
    EndsNumber (c :: rest) := by
  rintro d ⟨⟩
  rcases hc with rfl | rfl | rfl
  all_goals exact ⟨rfl, by decide, by decide, by decide⟩

/-- A character between pieces, with spaces behind it or without. -/
def Separates (piece : String) (c : Char) : Prop :=
  ∃ gap, piece.toList = c :: gap ∧ gap.all isSpace = true

theorem skipSpace_gap {gap : List Char} (hgap : gap.all isSpace = true) (hstart : StartsValue cs) :
    skipSpace (gap ++ cs) = cs := by
  induction gap with
  | nil =>
      have hskip : skipSpace (cs ++ []) = cs ++ [] := skipSpace_of_starts hstart
      rwa [List.append_nil] at hskip
  | cons c gap ih =>
      obtain ⟨hc, hgap⟩ := Bool.and_eq_true_iff.mp ((List.all_cons).symm.trans hgap)
      rw [skipSpace, List.cons_append, List.dropWhile_cons, if_pos hc]
      exact ih hgap

variable {comma colon : String}

theorem toList_intercalate_cons {next : String} {texts : List String} :
    (comma.intercalate (text :: next :: texts)).toList =
      text.toList ++ comma.toList ++ (comma.intercalate (next :: texts)).toList := by
  rw [String.intercalate_cons_cons, String.toList_append, String.toList_append]

theorem intercalate_starts (text : String) (texts : List String) :
    ∃ tail, (comma.intercalate (text :: texts)).toList = text.toList ++ tail := by
  cases texts with
  | nil => exact ⟨[], by rw [String.intercalate_singleton, List.append_nil]⟩
  | cons next texts => exact ⟨_, by rw [toList_intercalate_cons, List.append_assoc]⟩

theorem startsValue_intercalate {texts : List String} (hstart : StartsValue text.toList) :
    StartsValue (comma.intercalate (text :: texts)).toList := by
  obtain ⟨tail, htail⟩ := @intercalate_starts comma text texts
  rw [htail]
  exact hstart.append

section Sequences

variable {α : Type} {short : α → Prop} [DecidablePred short] {close : Char}
  {one : Nat → List Char → Except Fault (α × List Char)}
  {all : Nat → List Char → Except Fault (List α × List Char)}

/-- How pieces are read one after the other, with commas between them, up to the closing
character. -/
structure IsSequenceReader (close : Char) (one : Nat → List Char → Except Fault (α × List Char))
    (all : Nat → List Char → Except Fault (List α × List Char)) : Prop where
  next {fuel : Nat} {cs rest tail : List Char} {piece : α} (hone : one fuel cs = .ok (piece, rest))
    (hrest : skipSpace rest = ',' :: tail) :
    all (fuel + 1) cs = (all fuel (skipSpace tail)).map fun (pieces, rest) =>
      (piece :: pieces, rest)
  last {fuel : Nat} {cs rest tail : List Char} {piece : α} (hone : one fuel cs = .ok (piece, rest))
    (hrest : skipSpace rest = close :: tail) : all (fuel + 1) cs = .ok ([piece], tail)
  fails {fuel : Nat} {cs : List Char} {fault : Fault} (hone : one fuel cs = .error fault) :
    all (fuel + 1) cs = .error fault

/-- A piece is read from a text, or reading it fails because it is not short. -/
def ReadsPiece (one : Nat → List Char → Except Fault (α × List Char)) (short : α → Prop)
    [DecidablePred short] (text : String) (piece : α) : Prop :=
  StartsValue text.toList ∧
    ∀ fuel rest, 2 * text.toList.length ≤ fuel → EndsNumber rest →
      one fuel (text.toList ++ rest) =
        if short piece then .ok (piece, rest) else .error .malformedNumber

/-- Pieces are read from their texts, or reading them fails because one of them is not short. -/
theorem IsSequenceReader.intercalate (hreader : IsSequenceReader close one all)
    (hcomma : Separates comma ',') (hclose : close = ']' ∨ close = '\x7d') {texts : List String}
    {piece : α} {pieces : List α} (hfirst : ReadsPiece one short text piece)
    (hpieces : List.Forall₂ (ReadsPiece one short) texts pieces)
    (hfuel : 2 * (comma.intercalate (text :: texts)).toList.length + 1 ≤ fuel) :
    all fuel ((comma.intercalate (text :: texts)).toList ++ close :: rest) =
      if ∀ a ∈ piece :: pieces, short a then .ok (piece :: pieces, rest)
      else .error .malformedNumber := by
  -- The comma behind a piece pays for the step of fuel that the next piece takes.
  obtain ⟨gap, hgap, hspaces⟩ := hcomma
  have hnumber : EndsNumber (close :: rest) := endsNumber_cons (Or.inr hclose)
  have hskip : skipSpace (close :: rest) = close :: rest := by
    rcases hclose with rfl | rfl <;> rfl
  induction hpieces generalizing text piece fuel with
  | nil =>
      obtain ⟨fuel, rfl⟩ : ∃ n, fuel = n + 1 := ⟨fuel - 1, by omega⟩
      rw [String.intercalate_singleton] at hfuel ⊢
      have hread := hfirst.2 fuel (close :: rest) (by omega) hnumber
      simp only [List.forall_mem_singleton]
      split
      · rename_i hshort
        rw [if_pos hshort] at hread
        exact hreader.last hread hskip
      · rename_i hlong
        rw [if_neg hlong] at hread
        exact hreader.fails hread
  | @cons next other texts pieces hnext _ ih =>
      obtain ⟨fuel, rfl⟩ : ∃ n, fuel = n + 1 := ⟨fuel - 1, by omega⟩
      rw [toList_intercalate_cons, hgap] at hfuel ⊢
      simp only [List.length_append, List.length_cons, List.append_assoc, List.cons_append]
        at hfuel ⊢
      let others := (comma.intercalate (next :: texts)).toList ++ close :: rest
      have hread := hfirst.2 fuel (',' :: (gap ++ others)) (by omega) (endsNumber_cons (Or.inl rfl))
      have htail : all fuel others = _ := ih hnext (by omega)
      have hspace : skipSpace (gap ++ others) = others :=
        skipSpace_gap hspaces (startsValue_intercalate hnext.1).append
      by_cases hshort : short piece
      · rw [if_pos hshort] at hread
        rw [hreader.next hread skipSpace_comma, hspace, htail]
        simp only [List.forall_mem_cons, hshort, true_and]
        split <;> rfl
      · rw [if_neg hshort] at hread
        rw [hreader.fails hread, if_neg fun h => hshort (h piece List.mem_cons_self)]

end Sequences

theorem isSequenceReader_items (room : Nat) :
    IsSequenceReader ']' (readValue · room) (readItems · room) where
  next hone hrest := by
    rw [readItems, hone]
    simp only [ok_bind, hrest]
    rfl
  last hone hrest := by
    rw [readItems, hone]
    simp only [ok_bind, hrest]
    rfl
  fails hone := by
    rw [readItems, hone]
    rfl

/-- A list is read from the texts of its items. -/
theorem readsFrom_list (hcomma : Separates comma ',') {texts : List String} {items : List Value}
    (hitems : List.Forall₂ (ReadsFrom room) texts items) :
    ReadsFrom (room + 1) ("[" ++ comma.intercalate texts ++ "]") (.list items) := by
  have htext : ("[" ++ comma.intercalate texts ++ "]").toList =
      '[' :: ((comma.intercalate texts).toList ++ [']']) := by
    rw [String.toList_append, String.toList_append]
    rfl
  constructor
  · rw [htext]
    exact ⟨'[', _, rfl, rfl, by decide⟩
  · intro fuel rest hfuel _
    rw [htext, List.length_cons, List.length_append, List.length_singleton] at hfuel
    obtain ⟨fuel, rfl⟩ : ∃ n, fuel = n + 1 := ⟨fuel - 1, by omega⟩
    rw [htext, List.cons_append, List.append_assoc, List.singleton_append, readValue]
    simp only [enter, ok_bind]
    cases hitems with
    | nil =>
        rw [String.intercalate_nil, outcome_short Value.short_nil]
        rfl
    | @cons text v texts items hfirst hitems =>
        have hstart : StartsValue (comma.intercalate (text :: texts)).toList :=
          startsValue_intercalate hfirst.1
        have hread : readItems fuel room ((comma.intercalate (text :: texts)).toList ++
            ']' :: rest) = _ :=
          (isSequenceReader_items room).intercalate hcomma (Or.inl rfl) hfirst hitems (by omega)
        rw [skipSpace_of_starts hstart]
        split
        · rename_i h
          exact absurd h hstart.ne_close
        · rw [hread, outcome]
          simp only [Value.short_list]
          split <;> rfl

variable {escape : Char → List Char}

/-- The text of an entry, from its key and the text of its value. -/
def entryText (escape : Char → List Char) (colon : String) (key text : String) : String :=
  writeTextWith escape key ++ colon ++ text

theorem toList_entryText (key : String) : (entryText escape colon key text).toList =
    '"' :: (key.toList.flatMap escape ++ '"' :: (colon.toList ++ text.toList)) := by
  rw [entryText, String.toList_append, String.toList_append, toList_writeTextWith, List.cons_append,
    List.cons_append, List.append_assoc, List.append_assoc]
  rfl

/-- A key is read back, up to the value behind it. -/
theorem readKey_entryText (hescape : Faithful escape) (hcolon : Separates colon ':') (key : String)
    (hstart : StartsValue text.toList) :
    readKey ((entryText escape colon key text).toList ++ rest) =
      .ok (key, text.toList ++ rest) := by
  obtain ⟨gap, hgap, hspaces⟩ := hcolon
  have hspace : skipSpace (gap ++ (text.toList ++ rest)) = text.toList ++ rest :=
    skipSpace_gap hspaces hstart.append
  rw [toList_entryText, hgap]
  simp only [List.cons_append, List.append_assoc]
  rw [readKey, readText_writeText hescape]
  simp only [ok_bind, skipSpace_colon, hspace]

/-- An entry is read from the text of its value. -/
def ReadsEntry (escape : Char → List Char) (colon : String) (room : Nat) (text : String)
    (entry : String × Value) : Prop :=
  ∃ valueText, text = entryText escape colon entry.1 valueText ∧ ReadsFrom room valueText entry.2

variable {entry : String × Value}

theorem ReadsEntry.starts (hentry : ReadsEntry escape colon room text entry) :
    ∃ tail, text.toList = '"' :: tail := by
  obtain ⟨valueText, rfl, -⟩ := hentry
  exact ⟨_, toList_entryText entry.1⟩

/-- The key of an entry and its value. -/
def readEntry (fuel room : Nat) (cs : List Char) :
    Except Fault ((String × Value) × List Char) := do
  let (key, rest) ← readKey cs
  let (value, rest) ← readValue fuel room rest
  return ((key, value), rest)

theorem readEntries_succ (fuel room : Nat) (cs : List Char) :
    readEntries (fuel + 1) room cs = readEntry fuel room cs >>= fun (entry, rest) =>
      match skipSpace rest with
      | ',' :: rest => do
        let (entries, rest) ← readEntries fuel room (skipSpace rest)
        return (entry :: entries, rest)
      | '\x7d' :: rest => return ([entry], rest)
      | _ => .error .malformedDocument := by
  rw [readEntries, readEntry]
  cases readKey cs with
  | error fault => rfl
  | ok read =>
      obtain ⟨key, rest⟩ := read
      change (readValue fuel room rest >>= _) = ((readValue fuel room rest >>= _) >>= _)
      cases readValue fuel room rest with
      | error fault => rfl
      | ok read => rfl

theorem isSequenceReader_entries (room : Nat) :
    IsSequenceReader '\x7d' (readEntry · room) (readEntries · room) where
  next hone hrest := by
    rw [readEntries_succ, hone]
    simp only [ok_bind, hrest]
    rfl
  last hone hrest := by
    rw [readEntries_succ, hone]
    simp only [ok_bind, hrest]
    rfl
  fails hone := by
    rw [readEntries_succ, hone]
    rfl

theorem ReadsEntry.piece (hescape : Faithful escape) (hcolon : Separates colon ':')
    (hentry : ReadsEntry escape colon room text entry) :
    ReadsPiece (readEntry · room) (fun entry => entry.2.Short) text entry := by
  obtain ⟨tail, hquote⟩ := hentry.starts
  refine ⟨⟨'"', tail, hquote, rfl, by decide⟩, fun fuel rest hfuel hrest => ?_⟩
  obtain ⟨valueText, rfl, hstart, hread⟩ := hentry
  have hlength : valueText.toList.length ≤
      (entryText escape colon entry.1 valueText).toList.length := by
    simp only [toList_entryText, List.length_cons, List.length_append]
    omega
  simp only [readEntry, readKey_entryText hescape hcolon entry.1 hstart, ok_bind,
    hread fuel rest (by omega) hrest, outcome]
  split <;> rfl

/-- A mapping with distinct keys is read from the texts of its entries. -/
theorem readsFrom_map (hescape : Faithful escape) (hcomma : Separates comma ',')
    (hcolon : Separates colon ':') {texts : List String} {entries : List (String × Value)}
    (hkeys : (keysOf entries).Nodup)
    (hentries : List.Forall₂ (ReadsEntry escape colon room) texts entries) :
    ReadsFrom (room + 1) ("\x7b" ++ comma.intercalate texts ++ "\x7d") (.map entries) := by
  have htext : ("\x7b" ++ comma.intercalate texts ++ "\x7d").toList =
      '\x7b' :: ((comma.intercalate texts).toList ++ ['\x7d']) := by
    rw [String.toList_append, String.toList_append]
    rfl
  constructor
  · rw [htext]
    exact ⟨'\x7b', _, rfl, rfl, by decide⟩
  · intro fuel rest hfuel _
    rw [htext, List.length_cons, List.length_append, List.length_singleton] at hfuel
    obtain ⟨fuel, rfl⟩ : ∃ n, fuel = n + 1 := ⟨fuel - 1, by omega⟩
    rw [htext, List.cons_append, List.append_assoc, List.singleton_append, readValue]
    simp only [enter, ok_bind]
    cases hentries with
    | nil =>
        rw [String.intercalate_nil, outcome_short Value.short_empty]
        rfl
    | @cons text entry texts entries hfirst hentries =>
        have hread : readEntries fuel room ((comma.intercalate (text :: texts)).toList ++
            '\x7d' :: rest) = _ :=
          (isSequenceReader_entries room).intercalate hcomma (Or.inr rfl)
            (hfirst.piece hescape hcolon) (hentries.imp fun _ _ h => h.piece hescape hcolon)
            (by omega)
        obtain ⟨tail, hquote⟩ := hfirst.starts
        have hstart : StartsValue (comma.intercalate (text :: texts)).toList :=
          startsValue_intercalate ⟨'"', tail, hquote, rfl, by decide⟩
        rw [skipSpace_of_starts hstart]
        split
        · rename_i h
          obtain ⟨after, hafter⟩ := @intercalate_starts comma text texts
          rw [hafter, hquote] at h
          cases h
        · rw [hread, outcome]
          simp only [Value.short_map]
          split
          · change Except.ok (Value.map (mapOfEntries (entry :: entries)), rest) = _
            rw [mapOfEntries_of_nodup hkeys]
          · rfl

/-- A document is read from its text, unless it has too long a number. -/
theorem ReadsFrom.read (hreads : ReadsFrom nestingLimit text v) :
    read text = if v.Short then .ok v else .error .malformedNumber := by
  obtain ⟨hstart, hread⟩ := hreads
  have hempty : EndsNumber [] := by
    rintro c ⟨⟩
  have hspace : skipSpace (text.toList ++ []) = _ := skipSpace_of_starts hstart
  have hdone := hread (2 * text.toList.length + 2) [] (by omega) hempty
  rw [List.append_nil] at hspace hdone
  rw [Json.read]
  simp only [hspace, hdone, outcome]
  split <;> rfl

end PhotoCatalog.Json
