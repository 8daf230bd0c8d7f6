import PhotoCatalog.Proofs.Json.Pieces

/-!
Reading back what was written.  A document whose mappings have distinct keys and whose lists and
mappings are not nested too deeply is read back from its written form, in ASCII or not, unless a
whole number in it has more digits than the reader takes.
-/

namespace PhotoCatalog.Json

open PhotoCatalog.Number PhotoCatalog.Text

/-- Values that documents hold as they are, with room for this number of nested levels. -/
inductive Readable : Nat → Value → Prop where
  | null {room : Nat} : Readable room .null
  | bool {room : Nat} (b : Bool) : Readable room (.bool b)
  | int {room : Nat} (n : Int) : Readable room (.int n)
  | float {room : Nat} (x : Float) : Readable room (.float x)
  | text {room : Nat} (s : String) : Readable room (.text s)
  | list {room : Nat} {items : List Value} (hitems : ∀ v ∈ items, Readable room v) :
      Readable (room + 1) (.list items)
  | map {room : Nat} {entries : List (String × Value)} (hkeys : (keysOf entries).Nodup)
      (hentries : ∀ e ∈ entries, Readable room e.2) : Readable (room + 1) (.map entries)

variable {escape : Char → List Char} {room : Nat} {v : Value}

/-- Whether a value is read back from its written form, as far as its whole numbers allow. -/
def Reads (escape : Char → List Char) (room : Nat) (v : Value) : Prop :=
  ReadsFrom room (writeWith escape v) v

theorem startsAtom_shortest (x : Float) : StartsAtom (shortest documentStyle x).toList := by
  cases hparts : partsOf x with
  | nan =>
      rw [shortest, hparts]
      exact ⟨'N', _, rfl, rfl, by decide, by decide, by decide⟩
  | infinite negative =>
      rw [shortest, hparts]
      cases negative with
      | false => exact ⟨'I', _, rfl, rfl, by decide, by decide, by decide⟩
      | true => exact ⟨'-', _, rfl, rfl, by decide, by decide, by decide⟩
  | finite negative significand exponent =>
      obtain ⟨text, htext, hhead, -⟩ := shortest_finite hparts
      rw [htext]
      exact startsAtom_signed hhead

theorem reads_bool (b : Bool) : Reads escape room (.bool b) := by
  rw [Reads, writeWith]
  apply readsFrom_atom
  · cases b with
    | false => exact ⟨'f', _, rfl, rfl, by decide, by decide, by decide⟩
    | true => exact ⟨'t', _, rfl, rfl, by decide, by decide, by decide⟩
  · intro rest _
    rw [outcome_short (Value.short_bool b)]
    cases b <;> rfl

theorem reads_float (x : Float) : Reads escape room (.float x) := by
  rw [Reads, writeWith]
  apply readsFrom_atom (startsAtom_shortest x)
  intro rest hrest
  rw [outcome_short (Value.short_float x)]
  exact readAtom_shortest x hrest

theorem separates_spacedComma : Separates ", " ',' := ⟨[' '], rfl, rfl⟩

theorem separates_spacedColon : Separates ": " ':' := ⟨[' '], rfl, rfl⟩

theorem forall₂_writeItemsWith {items : List Value} (hitems : ∀ v ∈ items, Reads escape room v) :
    List.Forall₂ (ReadsFrom room) (writeItemsWith escape items) items := by
  induction items with
  | nil =>
      rw [writeItemsWith]
      exact .nil
  | cons v items ih =>
      rw [writeItemsWith]
      exact .cons (hitems v List.mem_cons_self)
        (ih fun w hw => hitems w (List.mem_cons_of_mem v hw))

theorem forall₂_writeEntriesWith {entries : List (String × Value)}
    (hentries : ∀ e ∈ entries, Reads escape room e.2) :
    List.Forall₂ (ReadsEntry escape ": " room) (writeEntriesWith escape entries) entries := by
  induction entries with
  | nil =>
      rw [writeEntriesWith]
      exact .nil
  | cons e entries ih =>
      rw [writeEntriesWith]
      exact .cons ⟨_, rfl, hentries e List.mem_cons_self⟩
        (ih fun w hw => hentries w (List.mem_cons_of_mem e hw))

/-- Every readable value is read back from its written form, as far as its whole numbers allow. -/
theorem Readable.reads (hescape : Faithful escape) (hv : Readable room v) :
    Reads escape room v := by
  induction hv with
  | null =>
      rw [Reads, writeWith]
      exact readsFrom_null
  | bool b => exact reads_bool b
  | int n =>
      rw [Reads, writeWith]
      exact readsFrom_int n
  | float x => exact reads_float x
  | text s =>
      rw [Reads, writeWith]
      exact readsFrom_text hescape s
  | list _ ih =>
      rw [Reads, writeWith]
      exact readsFrom_list separates_spacedComma (forall₂_writeItemsWith ih)
  | map hkeys _ ih =>
      rw [Reads, writeWith]
      exact readsFrom_map hescape separates_spacedComma separates_spacedColon hkeys
        (forall₂_writeEntriesWith ih)

/-- A readable document is read back from its written form, unless it has too long a number. -/
theorem Readable.read_writeWith (hescape : Faithful escape) (hv : Readable nestingLimit v) :
    read (writeWith escape v) = if v.Short then .ok v else .error .malformedNumber :=
  (hv.reads hescape).read

end PhotoCatalog.Json
