import PhotoCatalog.Proofs.Value.Keys

/-!
Slots of documents.  A slot says what a value is read for; values are alike in a slot when they are
read alike there.  A change somewhere in a document that leaves the values alike where it happens
leaves the whole document alike.
-/

namespace PhotoCatalog

open PhotoCatalog.Text

/-- What a value of a document is read for. -/
inductive Slot where
  | text | whole | real | flag
  /-- A coordinate of a box. -/
  | corner
  /-- A list of texts, which a text may spell. -/
  | texts
  /-- A number for each of some labels. -/
  | counts
  | list (item : Slot)
  /-- A mapping; what is read of an entry depends on its key, which comes here in lower case. -/
  | group (entry : String → Slot)
  /-- Nothing is read. -/
  | ignored

/-- The slot of an entry of a mapping.  Where a text is wanted, a mapping is shown as a whole. -/
def Slot.entry : Slot → String → Slot
  | .group entry, key => entry (lower key)
  | .counts, _ => .whole
  | .text, _ => .text
  | .whole, _ | .real, _ | .flag, _ | .corner, _ | .texts, _ | .list _, _ | .ignored, _ => .ignored

/-- The slot of an item of a list. -/
def Slot.item : Slot → Slot
  | .list item => item
  | .text | .texts => .text
  | .whole | .real | .flag | .corner | .counts | .group _ | .ignored => .ignored

/-- Values that are converted alike. -/
def ConvertAlike {α : Type} (convert : Value → Except Fault α) (v w : Value) : Prop :=
  ∀ place, (usable convert place v).result = (usable convert place w).result

/-- Values that are read alike in a slot. -/
def Slot.Alike : Slot → Value → Value → Prop
  | .text, v, w => v = w
  | .whole, v, w => ConvertAlike Value.toCount v w
  | .real, v, w => ConvertAlike Value.toFloat v w
  | .flag, v, w => ConvertAlike Value.toBool v w
  | .corner, v, w => v.isNull = w.isNull ∧ v.toInt = w.toInt
  | .texts, v, w => v.isNull = w.isNull ∧ (readTexts v).result = (readTexts w).result
  | .counts, v, w =>
    match v, w with
    | .map entries, .map entries' =>
      ∀ counts, (readCounts counts entries).result = (readCounts counts entries').result
    | .map _, _ | _, .map _ => False
    | _, _ => True
  | .list item, v, w =>
    match v, w with
    | .list items, .list items' => List.Forall₂ item.Alike items items'
    | .list _, _ | _, .list _ => False
    | _, _ => True
  | .group entry, v, w =>
    v.isMap = w.isMap ∧ ∀ key, (entry (lower key)).Alike (v.entry key) (w.entry key)
  | .ignored, _, _ => True

variable {p : Slot} {key : String} {v w : Value} {before after : List (String × Value)}

theorem Slot.Alike.refl (p : Slot) (v : Value) : p.Alike v v := by
  induction p generalizing v with
  | text => exact Eq.refl v
  | whole | real | flag => exact fun _ => rfl
  | corner | texts => exact ⟨rfl, rfl⟩
  | counts =>
      cases v with
      | map entries => exact fun _ => rfl
      | null | bool | int | float | text | bytes | date | moment | list => exact trivial
  | list item ih =>
      cases v with
      | list items => exact List.forall₂_same.mpr fun item _ => ih item
      | null | bool | int | float | text | bytes | date | moment | map => exact trivial
  | group entry ih => exact ⟨rfl, fun key => ih (lower key) (v.entry key)⟩
  | ignored => exact trivial

theorem convertAlike_of_eq {α : Type} {convert : Value → Except Fault α} (hv : v ≠ .null)
    (hw : w ≠ .null) (hsame : convert v = convert w) : ConvertAlike convert v w := by
  intro place
  rw [usable, usable, hsame]
  · exact hw
  · exact hv

/-- Entries that are counted alike are counted alike behind the same entries. -/
theorem readCounts_append {rest rest' : List (String × Value)}
    (hrest : ∀ counts, (readCounts counts rest).result = (readCounts counts rest').result)
    (counts : List (String × Int)) :
    (readCounts counts (before ++ rest)).result = (readCounts counts (before ++ rest')).result := by
  induction before generalizing counts with
  | nil => exact hrest counts
  | cons entry before ih =>
      simp only [List.cons_append, readCounts]
      refine Reading.result_bind_congr rfl fun found => ?_
      cases found with
      | none => exact ih counts
      | some n => exact ih _

/-- The counts that are read depend on the entries only as far as their values are converted. -/
theorem readCounts_alike (halike : ConvertAlike Value.toCount v w) :
    ∀ counts, (readCounts counts (before ++ (key, v) :: after)).result =
      (readCounts counts (before ++ (key, w) :: after)).result := by
  refine readCounts_append fun counts => ?_
  rw [readCounts, readCounts]
  exact Reading.result_bind_congr (halike _) fun _ => rfl

/-- A mapping with another value for a key is alike when the values are. -/
theorem Slot.Alike.replaceEntry (hdistinct : (lowerKeysOf (before ++ (key, v) :: after)).Nodup)
    (halike : (p.entry key).Alike v w) :
    p.Alike (.map (before ++ (key, v) :: after)) (.map (before ++ (key, w) :: after)) := by
  cases p with
  -- What is shown as a text is the same throughout; elsewhere a mapping is one misfit or another.
  | text => exact congrArg (fun v => Value.map (before ++ (key, v) :: after)) halike
  | whole | real => exact convertAlike_of_eq nofun nofun rfl
  | flag =>
      refine convertAlike_of_eq nofun nofun ?_
      cases before <;> rfl
  | corner | texts => exact ⟨rfl, rfl⟩
  | counts => exact readCounts_alike halike
  | list => exact trivial
  | group entry =>
      have hdistinct' : (lowerKeysOf (before ++ (key, w) :: after)).Nodup := by
        simpa [lowerKeysOf] using hdistinct
      refine ⟨rfl, fun other => ?_⟩
      rw [Value.entry_split hdistinct, Value.entry_split hdistinct']
      split
      · rename_i hkey
        exact hkey ▸ halike
      · exact .refl _ _
  | ignored => exact trivial

/-- A list with another item is alike when the items are. -/
theorem Slot.Alike.replaceItem {before after : List Value} (halike : p.item.Alike v w) :
    p.Alike (.list (before ++ v :: after)) (.list (before ++ w :: after)) := by
  cases p with
  | text => exact congrArg (fun v => Value.list (before ++ v :: after)) halike
  | whole | real => exact convertAlike_of_eq nofun nofun rfl
  | flag =>
      refine convertAlike_of_eq nofun nofun ?_
      cases before <;> rfl
  | corner => exact ⟨rfl, rfl⟩
  | texts =>
      have hsame : v = w := halike
      exact hsame ▸ .refl _ _
  | counts => exact trivial
  | list item =>
      have hsame : ∀ items : List Value, List.Forall₂ item.Alike items items :=
        fun items => List.forall₂_same.mpr fun v _ => .refl item v
      exact List.rel_append (hsame before) (.cons halike (hsame after))
  | group => exact ⟨rfl, fun key => .refl _ _⟩
  | ignored => exact trivial

/-- A change somewhere in a document. -/
inductive Changed (change : Slot → Value → Value → Prop) : Slot → Value → Value → Prop where
  | here {p : Slot} {v w : Value} (hchange : change p v w) : Changed change p v w
  | entry {p : Slot} {key : String} {v w : Value} {before after : List (String × Value)}
      (hbelow : Changed change (p.entry key) v w) :
      Changed change p (.map (before ++ (key, v) :: after)) (.map (before ++ (key, w) :: after))
  | item {p : Slot} {v w : Value} {before after : List Value} (hbelow : Changed change p.item v w) :
      Changed change p (.list (before ++ v :: after)) (.list (before ++ w :: after))

/-- Changes that are not noticed where they happen, and that bring no key twice. -/
def Unnoticed (change : Slot → Value → Value → Prop) : Prop :=
  ∀ p v w, change p v w → v.Unambiguous → p.Alike v w ∧ w.Unambiguous

/-- What is not noticed where it happens is not noticed in the document. -/
theorem Unnoticed.changed {change : Slot → Value → Value → Prop} (hunnoticed : Unnoticed change) :
    Unnoticed (Changed change) := by
  -- By the way down to the change: what is alike below makes the mapping or the list alike.
  intro p v w hchanged hv
  induction hchanged with
  | here hchange => exact hunnoticed _ _ _ hchange hv
  | entry hbelow ih =>
      obtain ⟨halike, hw⟩ := ih (hv.entries _ (List.mem_append_right _ List.mem_cons_self))
      exact ⟨.replaceEntry hv.self halike, hv.replace rfl hw⟩
  | item hbelow ih =>
      obtain ⟨halike, hw⟩ := ih (hv.items _ (List.mem_append_right _ List.mem_cons_self))
      exact ⟨.replaceItem halike, hv.replaceItem hw⟩

end PhotoCatalog
