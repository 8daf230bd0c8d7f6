import PhotoCatalog.Proofs.Json.Text
import PhotoCatalog.Proofs.Value.Bounded

/-!
What a document spells is bounded.  The reader takes no whole number beyond the digit limit, and a
list has no more items than the document has characters to spell them.
-/

namespace PhotoCatalog

open PhotoCatalog.Number

namespace Json

variable {cs rest : List Char} {v : Value}

theorem readWhole_lt {digits : List Nat} (hread : readWhole cs = some (digits, rest)) :
    ∀ d ∈ digits, d < 10 := by
  rw [readWhole.eq_def] at hread
  split at hread
  · cases hread
    decide
  · split at hread
    · cases hread
    · rename_i htake
      cases hread
      exact takeDigits_lt htake

theorem readNumber_bounded {negative : Bool} (hread : readNumber negative cs = .ok (v, rest)) :
    v.Bounded := by
  rw [readNumber] at hread
  split at hread
  · cases hread
  · rename_i whole tail hwhole
    dsimp only at hread
    split at hread
    · split at hread
      · cases hread
      · rename_i hlength
        cases hread
        exact .int (natAbs_ofDigits_lt (readWhole_lt hwhole) hlength negative)
    · cases hread
      exact .float _

theorem readWord_bounded (hread : readWord cs = some (v, rest)) : v.Bounded := by
  obtain ⟨⟨word, value⟩, hword, hread⟩ := List.exists_of_findSome?_eq_some hread
  obtain ⟨tail, -, hread⟩ := Option.map_eq_some_iff.mp hread
  cases hread
  simp only [List.mem_cons, Prod.mk.injEq, List.not_mem_nil, or_false] at hword
  rcases hword with ⟨-, rfl⟩ | ⟨-, rfl⟩ | ⟨-, rfl⟩ | ⟨-, rfl⟩ | ⟨-, rfl⟩ | ⟨-, rfl⟩
  · exact .null
  · exact .bool true
  · exact .bool false
  · exact .float _
  · exact .float _
  · exact .float _

theorem readAtom_bounded (hread : readAtom cs = .ok (v, rest)) : v.Bounded := by
  rw [readAtom.eq_def] at hread
  split at hread
  · obtain ⟨⟨s, tail⟩, -, hread⟩ := map_eq_ok.mp hread
    cases hread
    exact .text s
  · split at hread
    · rename_i hword
      cases hread
      exact readWord_bounded hword
    · split at hread
      · exact readNumber_bounded hread
      · exact readNumber_bounded hread

/-- What the readers come to with this much fuel is bounded, and there are no more items than
fuel. -/
structure BoundedReads (fuel : Nat) : Prop where
  value {room : Nat} {cs rest : List Char} {v : Value}
    (hread : readValue fuel room cs = .ok (v, rest)) : v.Bounded
  items {room : Nat} {cs rest : List Char} {items : List Value}
    (hread : readItems fuel room cs = .ok (items, rest)) :
    items.length ≤ fuel ∧ ∀ v ∈ items, v.Bounded
  entries {room : Nat} {cs rest : List Char} {entries : List (String × Value)}
    (hread : readEntries fuel room cs = .ok (entries, rest)) : ∀ e ∈ entries, e.2.Bounded

theorem boundedReads_zero : BoundedReads 0 where
  value hread := by
    rw [readValue] at hread
    cases hread
  items hread := by
    rw [readItems] at hread
    cases hread
  entries hread := by
    rw [readEntries] at hread
    cases hread

variable {fuel room : Nat}

theorem readValue_bounded (hreads : BoundedReads fuel) (hfuel : fuel < 10 ^ maxDigits)
    (hread : readValue (fuel + 1) room cs = .ok (v, rest)) : v.Bounded := by
  rw [readValue.eq_def] at hread
  dsimp only at hread
  split at hread
  · obtain ⟨room, -, hread⟩ := bind_eq_ok.mp hread
    split at hread
    · cases hread
      exact .list (List.forall_mem_nil _) (Nat.pow_pos (by decide))
    · obtain ⟨⟨items, tail⟩, hitems, hread⟩ := bind_eq_ok.mp hread
      obtain ⟨hlength, hall⟩ := hreads.items hitems
      cases hread
      exact .list hall (Nat.lt_of_le_of_lt hlength hfuel)
  · obtain ⟨room, -, hread⟩ := bind_eq_ok.mp hread
    split at hread
    · cases hread
      exact .map (List.forall_mem_nil _)
    · obtain ⟨⟨entries, tail⟩, hentries, hread⟩ := bind_eq_ok.mp hread
      cases hread
      exact .map fun e he => hreads.entries hentries e (mem_mapOfEntries he)
  · exact readAtom_bounded hread

theorem readItems_bounded {items : List Value} (hreads : BoundedReads fuel)
    (hread : readItems (fuel + 1) room cs = .ok (items, rest)) :
    items.length ≤ fuel + 1 ∧ ∀ v ∈ items, v.Bounded := by
  rw [readItems] at hread
  obtain ⟨⟨item, tail⟩, hitem, hread⟩ := bind_eq_ok.mp hread
  have hfirst := hreads.value hitem
  dsimp only at hread
  split at hread
  · obtain ⟨⟨others, tail⟩, hothers, hread⟩ := bind_eq_ok.mp hread
    obtain ⟨hlength, hall⟩ := hreads.items hothers
    cases hread
    exact ⟨Nat.succ_le_succ hlength, List.forall_mem_cons.mpr ⟨hfirst, hall⟩⟩
  · cases hread
    exact ⟨Nat.succ_le_succ (Nat.zero_le _), List.forall_mem_singleton.mpr hfirst⟩
  · cases hread

theorem readEntries_bounded {entries : List (String × Value)} (hreads : BoundedReads fuel)
    (hread : readEntries (fuel + 1) room cs = .ok (entries, rest)) :
    ∀ e ∈ entries, e.2.Bounded := by
  rw [readEntries] at hread
  obtain ⟨⟨key, behind⟩, -, hread⟩ := bind_eq_ok.mp hread
  obtain ⟨⟨value, tail⟩, hvalue, hread⟩ := bind_eq_ok.mp hread
  have hfirst := hreads.value hvalue
  dsimp only at hread
  split at hread
  · obtain ⟨⟨others, tail⟩, hothers, hread⟩ := bind_eq_ok.mp hread
    cases hread
    exact List.forall_mem_cons.mpr ⟨hfirst, hreads.entries hothers⟩
  · cases hread
    exact List.forall_mem_singleton.mpr hfirst
  · cases hread

/-- Within the limit of fuel everything that is read is bounded. -/
theorem boundedReads (hfuel : fuel ≤ 10 ^ maxDigits) : BoundedReads fuel := by
  induction fuel with
  | zero => exact boundedReads_zero
  | succ fuel ih =>
      have hreads := ih (Nat.le_of_succ_le hfuel)
      exact ⟨readValue_bounded hreads hfuel, readItems_bounded hreads, readEntries_bounded hreads⟩

/-- The value that a document spells is bounded, unless the document is too long to be counted. -/
theorem read_bounded {text : String} (hlength : 2 * text.length + 2 ≤ 10 ^ maxDigits)
    (hread : read text = .ok v) : v.Bounded := by
  obtain ⟨⟨value, tail⟩, hvalue, hread⟩ := bind_eq_ok.mp hread
  dsimp only at hread
  split at hread
  · cases hread
    rw [String.length_toList] at hvalue
    exact (boundedReads hlength).value hvalue
  · cases hread

end Json

end PhotoCatalog
