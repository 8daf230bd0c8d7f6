import PhotoCatalog.Proofs.Json.Faults
import PhotoCatalog.Proofs.Value.Bounded

/-!
Values that fit.  A conversion passes over a value of another kind, but an infinite number, a whole
number beyond the doubles and a list that is nested too deeply end it.  Where no such value occurs,
every conversion either gives something or finds a misfit.
-/

namespace PhotoCatalog

open PhotoCatalog.Number

/-- What a value contains: itself, and whatever its items or entries contain. -/
inductive Value.Contains : Value → Value → Prop where
  | self (v : Value) : Contains v v
  | item {items : List Value} {item v : Value} (hitem : item ∈ items) (hbelow : Contains item v) :
      Contains (.list items) v
  | entry {entries : List (String × Value)} {e : String × Value} {v : Value} (hentry : e ∈ entries)
      (hbelow : Contains e.2 v) : Contains (.map entries) v

/-- Whether something holds of everything that a value contains. -/
def Value.Throughout (Q : Value → Prop) (document : Value) : Prop :=
  ∀ v, document.Contains v → Q v

namespace Value.Throughout

variable {Q R : Value → Prop} {document : Value}

theorem self (hdocument : document.Throughout Q) : Q document := hdocument document (.self document)

theorem mono (hdocument : document.Throughout Q) (himp : ∀ v, Q v → R v) : document.Throughout R :=
  fun v hv => himp v (hdocument v hv)

theorem null (hnull : Q .null) : Throughout Q .null := by
  intro v hv
  cases hv
  exact hnull

theorem items {items : List Value} (hlist : (Value.list items).Throughout Q) :
    ∀ item ∈ items, item.Throughout Q :=
  fun _ hitem v hv => hlist v (.item hitem hv)

theorem entries {entries : List (String × Value)} (hmap : (Value.map entries).Throughout Q) :
    ∀ e ∈ entries, e.2.Throughout Q :=
  fun _ hentry v hv => hmap v (.entry hentry hv)

theorem map {entries : List (String × Value)} (hself : Q (.map entries))
    (hentries : ∀ e ∈ entries, e.2.Throughout Q) : Throughout Q (.map entries) := by
  intro v hv
  cases hv with
  | self => exact hself
  | entry hentry hbelow => exact hentries _ hentry v hbelow

theorem list {items : List Value} (hself : Q (.list items))
    (hitems : ∀ item ∈ items, item.Throughout Q) : Throughout Q (.list items) := by
  intro v hv
  cases hv with
  | self => exact hself
  | item hitem hbelow => exact hitems _ hitem v hbelow

theorem text {s : String} (hself : Q (.text s)) : Throughout Q (.text s) := by
  intro v hv
  cases hv
  exact hself

/-- What holds throughout a document holds throughout its entries. -/
theorem entry (hdocument : document.Throughout Q) (hnull : Q .null) (key : String) :
    (document.entry key).Throughout Q := by
  cases document with
  | map entries =>
      rw [Value.entry]
      split
      · rename_i hlookup
        exact hdocument.entries _ (mem_of_lookup hlookup)
      · cases hfind : entries.find? fun e => Text.lower e.1 == Text.lower key with
        | none => exact null hnull
        | some e => exact hdocument.entries e (List.mem_of_find?_eq_some hfind)
  | null | bool | int | float | text | bytes | date | moment | list => exact null hnull

end Value.Throughout

def IsInfinite (x : Float) : Prop := ∃ negative, partsOf x = .infinite negative

/-- Values that fit where a real number is wanted: no whole number beyond the doubles. -/
def Value.FitsReal : Value → Prop
  | .int n => (ofInt? n).isSome = true
  | _ => True

/-- Values that fit where a whole number is wanted: nothing infinite, and no text that spells
something infinite. -/
def Value.FitsWhole : Value → Prop
  | .float x => ¬ IsInfinite x
  | .text s => ∀ x, float? s = some x → ¬ IsInfinite x
  | _ => True

/-- Values that fit where a list of texts is wanted: no document that is nested too deeply. -/
def Value.FitsTexts : Value → Prop
  | .text s => Json.read s ≠ .error .nestedTooDeeply
  | _ => True

/-- Values that fit wherever they stand. -/
structure Value.Fits (v : Value) : Prop where
  real : v.FitsReal
  whole : v.FitsWhole
  texts : v.FitsTexts

/-- Whether a value fits where a value of a kind is wanted; every value has a text. -/
def FieldKind.Fits : FieldKind → Value → Prop
  | .text, _ => True
  | .real, v => v.FitsReal
  | .whole, v => v.FitsWhole

/-- Whether a fault is a misfit, or one of some others. -/
def IsMisfitOr (P : Fault → Prop) (fault : Fault) : Prop := fault.isMisfit = true ∨ P fault

theorem isMisfitOr_malformedNumber {P : Fault → Prop} : IsMisfitOr P .malformedNumber := Or.inl rfl

theorem isMisfitOr_wrongKind {P : Fault → Prop} : IsMisfitOr P .wrongKind := Or.inl rfl

theorem spelled_fails {α : Type} {P : Fault → Prop} (o : Option α) :
    FailsOnly (IsMisfitOr P) (spelled o) := by
  cases o with
  | none => exact failsOnly_error.mpr isMisfitOr_malformedNumber
  | some a => exact failsOnly_ok a

theorem spelled_ne_outOfRange {α : Type} (o : Option α) : spelled o ≠ .error .outOfRange := by
  cases o <;> nofun

section

variable {x : Float} {v : Value}

theorem intOfFloat_fails : FailsOnly (IsMisfitOr (· = .outOfRange)) (intOfFloat x) := by
  rw [intOfFloat]
  split
  · exact failsOnly_error.mpr isMisfitOr_malformedNumber
  · exact failsOnly_error.mpr (Or.inr rfl)
  · exact failsOnly_ok _

theorem intOfFloat_eq_outOfRange_iff : intOfFloat x = .error .outOfRange ↔ IsInfinite x := by
  rw [intOfFloat, IsInfinite]
  split <;> simp [*]

theorem Value.toFloat_fails (v : Value) : FailsOnly (IsMisfitOr (· = .outOfRange)) v.toFloat := by
  cases v with
  | int n =>
      rw [Value.toFloat, floatOfInt]
      split
      · exact failsOnly_ok _
      · exact failsOnly_error.mpr (Or.inr rfl)
  | bool b => exact failsOnly_ok _
  | float x => exact failsOnly_ok x
  | text s => exact spelled_fails _
  | bytes data => exact spelled_fails _
  | null | date | moment | list | map => exact failsOnly_error.mpr isMisfitOr_wrongKind

theorem Value.toInt_fails (v : Value) : FailsOnly (IsMisfitOr (· = .outOfRange)) v.toInt := by
  cases v with
  | float x => exact intOfFloat_fails
  | bool b => exact failsOnly_ok _
  | int n => exact failsOnly_ok n
  | text s => exact spelled_fails _
  | bytes data => exact spelled_fails _
  | null | date | moment | list | map => exact failsOnly_error.mpr isMisfitOr_wrongKind

theorem Value.toCount_fails (v : Value) : FailsOnly (IsMisfitOr (· = .outOfRange)) v.toCount := by
  rw [Value.toCount.eq_def]
  split
  · rename_i s
    exact (spelled_fails (float? s)).bind fun _ _ => intOfFloat_fails
  · exact Value.toInt_fails _

theorem textsOf_fails {P : Fault → Prop} (v : Value) : FailsOnly (IsMisfitOr P) (textsOf v) := by
  cases v with
  | list items => exact failsOnly_ok _
  | null | bool | int | float | text | bytes | date | moment | map =>
      exact failsOnly_error.mpr isMisfitOr_wrongKind

theorem Value.toTexts_fails (v : Value) :
    FailsOnly (IsMisfitOr (· = .nestedTooDeeply)) v.toTexts := by
  rw [Value.toTexts.eq_def]
  split
  · rename_i s
    refine FailsOnly.bind (fun fault hfault => ?_) fun value _ => textsOf_fails value
    rcases Json.read_fails s fault hfault with rfl | rfl | rfl
    · exact Or.inl rfl
    · exact Or.inl rfl
    · exact Or.inr rfl
  · exact textsOf_fails _

/-- Where a real number is wanted, what does not fit is out of range. -/
theorem Value.toFloat_eq_outOfRange_iff : v.toFloat = .error .outOfRange ↔ ¬ v.FitsReal := by
  cases v with
  | int n =>
      rw [Value.toFloat, floatOfInt, Value.FitsReal]
      split <;> simp [*]
  | text s => exact iff_of_false (spelled_ne_outOfRange _) (not_not_intro trivial)
  | bytes data => exact iff_of_false (spelled_ne_outOfRange _) (not_not_intro trivial)
  | null | bool | float | date | moment | list | map =>
      exact iff_of_false nofun (not_not_intro trivial)

theorem Value.toInt_ne_outOfRange (hfits : v.FitsWhole) : v.toInt ≠ .error .outOfRange := by
  cases v with
  | float x => exact mt intOfFloat_eq_outOfRange_iff.mp hfits
  | text s => exact spelled_ne_outOfRange _
  | bytes data => exact spelled_ne_outOfRange _
  | null | bool | int | date | moment | list | map => nofun

/-- Where a whole number is wanted, what does not fit is out of range. -/
theorem Value.toCount_eq_outOfRange_iff : v.toCount = .error .outOfRange ↔ ¬ v.FitsWhole := by
  cases v with
  | float x =>
      rw [Value.FitsWhole, not_not]
      exact intOfFloat_eq_outOfRange_iff
  | text s =>
      have hread : (Value.text s).toCount = spelled (float? s) >>= intOfFloat := rfl
      rw [hread, Value.FitsWhole]
      cases hspelled : float? s with
      | none => exact iff_of_false nofun (by simp)
      | some x =>
          change intOfFloat x = _ ↔ _
          rw [intOfFloat_eq_outOfRange_iff]
          simp
  | bytes data => exact iff_of_false (spelled_ne_outOfRange _) (not_not_intro trivial)
  | null | bool | int | date | moment | list | map =>
      exact iff_of_false nofun (not_not_intro trivial)

/-- Where a list of texts is wanted, what does not fit is nested too deeply. -/
theorem Value.toTexts_eq_nestedTooDeeply_iff :
    v.toTexts = .error .nestedTooDeeply ↔ ¬ v.FitsTexts := by
  cases v with
  | text s =>
      have hread : (Value.text s).toTexts = Json.read s >>= textsOf := rfl
      rw [hread, Value.FitsTexts, not_not]
      cases Json.read s with
      | error fault =>
          constructor
          all_goals
            rintro ⟨⟩
            rfl
      | ok value =>
          refine iff_of_false ?_ nofun
          cases value <;> nofun
  | null | bool | int | float | bytes | date | moment | list | map =>
      exact iff_of_false nofun (not_not_intro trivial)

end

variable {P : Fault → Prop} {v : Value}

/-- A conversion that fails in one way beside misfits does not fail so where this way is excluded. -/
theorem FailsOnly.excluding {α : Type} {fault : Fault} {x : Except Fault α}
    (hx : FailsOnly (IsMisfitOr (· = fault)) x) (hexcluded : x ≠ .error fault ∨ P fault) :
    FailsOnly (IsMisfitOr P) x := by
  intro other hother
  rcases hx other hother with hmisfit | rfl
  · exact Or.inl hmisfit
  · exact Or.inr (hexcluded.resolve_left (not_not_intro hother))

/-- Values whose conversions give something, find a misfit, or fail in one of some other ways. -/
structure Value.Converts (P : Fault → Prop) (v : Value) : Prop where
  toFloat : FailsOnly (IsMisfitOr P) v.toFloat
  toInt : FailsOnly (IsMisfitOr P) v.toInt
  toCount : FailsOnly (IsMisfitOr P) v.toCount
  toTexts : FailsOnly (IsMisfitOr P) v.toTexts

theorem Value.FitsReal.toFloat (hfits : v.FitsReal) : FailsOnly (IsMisfitOr P) v.toFloat :=
  v.toFloat_fails.excluding
    (Or.inl fun hrange => Value.toFloat_eq_outOfRange_iff.mp hrange hfits)

theorem Value.FitsWhole.toInt (hfits : v.FitsWhole) : FailsOnly (IsMisfitOr P) v.toInt :=
  v.toInt_fails.excluding (Or.inl (Value.toInt_ne_outOfRange hfits))

theorem Value.FitsWhole.toCount (hfits : v.FitsWhole) : FailsOnly (IsMisfitOr P) v.toCount :=
  v.toCount_fails.excluding
    (Or.inl fun hrange => Value.toCount_eq_outOfRange_iff.mp hrange hfits)

theorem Value.FitsTexts.toTexts (hfits : v.FitsTexts) : FailsOnly (IsMisfitOr P) v.toTexts :=
  v.toTexts_fails.excluding
    (Or.inl fun hdepth => Value.toTexts_eq_nestedTooDeeply_iff.mp hdepth hfits)

theorem Value.Fits.converts (hfits : v.Fits) : v.Converts P :=
  ⟨hfits.real.toFloat, hfits.whole.toInt, hfits.whole.toCount, hfits.texts.toTexts⟩

/-- What does not fit can only be out of range or nested too deeply. -/
theorem Value.converts_of_limits (hrange : P .outOfRange) (hdepth : P .nestedTooDeeply) (v : Value) :
    v.Converts P where
  toFloat := v.toFloat_fails.excluding (Or.inr hrange)
  toInt := v.toInt_fails.excluding (Or.inr hrange)
  toCount := v.toCount_fails.excluding (Or.inr hrange)
  toTexts := v.toTexts_fails.excluding (Or.inr hdepth)

theorem Value.toBool_fails (v : Value) : FailsOnly (IsMisfitOr P) v.toBool := by
  cases v with
  | text s =>
      rw [Value.toBool]
      split
      · exact failsOnly_ok true
      · split
        · exact failsOnly_ok false
        · exact failsOnly_error.mpr isMisfitOr_malformedNumber
  | null | bool | int | float | bytes | date | moment | list | map => exact failsOnly_ok _

theorem Value.toText_fails (v : Value) : FailsOnly (IsMisfitOr P) v.toText := failsOnly_ok v.shown

theorem Value.Converts.read (hv : v.Converts P) (kind : FieldKind) :
    FailsOnly (IsMisfitOr P) (kind.read v) := by
  cases kind with
  | text => exact v.toText_fails
  | real => exact hv.toFloat
  | whole => exact hv.toCount

theorem FieldKind.Fits.read {kind : FieldKind} (hfits : kind.Fits v) :
    FailsOnly (IsMisfitOr P) (kind.read v) := by
  cases kind with
  | text => exact v.toText_fails
  | real => exact Value.FitsReal.toFloat hfits
  | whole => exact Value.FitsWhole.toCount hfits

theorem Value.fits_null : Value.Fits .null := ⟨trivial, trivial, trivial⟩

theorem Value.converts_null : Value.Converts P .null := Value.fits_null.converts

end PhotoCatalog
