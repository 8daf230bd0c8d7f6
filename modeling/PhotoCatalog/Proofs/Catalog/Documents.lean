import PhotoCatalog.Catalog.Answer
import PhotoCatalog.Proofs.Json.Stored

/-!
The documents of child rows.  A cell goes into a document as a text and arrives as the value that
this text is read as: null, texts and whole numbers as they are, a finite real as a double that may
differ from it behind the fifteenth digit.
-/

namespace PhotoCatalog.Catalog

open PhotoCatalog.Json PhotoCatalog.Number PhotoCatalog.Text

/-- The value that a cell arrives as when a document has carried it. -/
def Cell.carried (cell : Cell) : Value :=
  match cell.documentText with
  | .error _ => .null
  | .ok document =>
    match Json.read document with
    | .ok v => v
    | .error _ => .null

/-- The cells that a document carries: whole numbers as the catalog holds them, and finite reals. -/
inductive Cell.IsCarried : Cell → Prop where
  | null : IsCarried .null
  | int {n : Int} (hfits : fits n = true) : IsCarried (.int n)
  | real {x : Float} (hfinite : isFinite x = true) : IsCarried (.real x)
  | text (s : String) : IsCarried (.text s)

variable {cell : Cell} {text : String} {v : Value}

theorem carried_eq (htext : cell.documentText = .ok text) (hshort : v.Short)
    (hreads : ReadsFrom nestingLimit text v) : cell.carried = v := by
  rw [Cell.carried, htext]
  dsimp only
  rw [hreads.read, if_pos hshort]

theorem short_of_fits {n : Int} (hfits : fits n = true) : (Value.int n).Short := by
  obtain ⟨hlow, hhigh⟩ := Bool.and_eq_true_iff.mp hfits
  have hlow' := of_decide_eq_true hlow
  have hhigh' := of_decide_eq_true hhigh
  rw [Value.short_int]
  calc n.natAbs < 10 ^ 20 := by omega
    _ ≤ 10 ^ maxDigits := Nat.pow_le_pow_right (by decide) (by decide)

/-- What documents carry is read from its text. -/
theorem Cell.IsCarried.reads (hcell : cell.IsCarried) : ∃ text, cell.documentText = .ok text ∧
    cell.carried.Short ∧ ∀ room, ReadsFrom room text cell.carried := by
  have hread : ∀ text v, cell.documentText = .ok text → v.Short →
      (∀ room, ReadsFrom room text v) → ∃ text, cell.documentText = .ok text ∧
        cell.carried.Short ∧ ∀ room, ReadsFrom room text cell.carried := by
    intro text v htext hshort hreads
    rw [carried_eq htext hshort (hreads nestingLimit)]
    exact ⟨text, htext, hshort, hreads⟩
  cases hcell with
  | null => exact hread _ _ rfl Value.short_null fun _ => readsFrom_null
  | int hfits => exact hread _ _ rfl (short_of_fits hfits) fun _ => readsFrom_int _
  | real hfinite =>
      obtain ⟨y, hy⟩ := readsFrom_storedText hfinite
      exact hread _ _ rfl (Value.short_float y) hy
  | text s =>
      exact hread _ _ rfl (Value.short_text s) fun _ => readsFrom_text faithful_escapedChar s

@[simp] theorem carried_null : Cell.null.carried = .null :=
  carried_eq rfl Value.short_null readsFrom_null

@[simp] theorem carried_text (s : String) : (Cell.text s).carried = .text s :=
  carried_eq rfl (Value.short_text s) (readsFrom_text faithful_escapedChar s)

theorem carried_int {n : Int} (hfits : fits n = true) : (Cell.int n).carried = .int n :=
  carried_eq rfl (short_of_fits hfits) (readsFrom_int n)

/-- A finite real arrives as a double. -/
theorem carried_real {x : Float} (hfinite : isFinite x = true) :
    ∃ y, (Cell.real x).carried = .float y := by
  obtain ⟨y, hy⟩ := readsFrom_storedText hfinite
  exact ⟨y, carried_eq rfl (Value.short_float y) (hy nestingLimit)⟩

variable {table : ChildTable} {row : ChildRow}

/-- The cells of a child row under the keys that its document has for them. -/
def ChildRow.keyedCells (table : ChildTable) (row : ChildRow) : List (String × Cell) :=
  [(table.matchColumn, row.label), ("confidence", row.confidence)]
    ++ cornerKeys.zipIdx.map fun (key, i) => (key, (row.corners[i]?).getD .null)

/-- The value that a child row arrives as. -/
def ChildRow.carried (table : ChildTable) (row : ChildRow) : Value :=
  .map ((row.keyedCells table).map fun entry => (entry.1, entry.2.carried))

/-- Child rows all of whose cells are carried. -/
structure ChildRow.IsCarried (row : ChildRow) : Prop where
  label : row.label.IsCarried
  confidence : row.confidence.IsCarried
  corners : ∀ cell ∈ row.corners, cell.IsCarried

theorem ChildRow.IsCarried.keyedCells (hrow : row.IsCarried) :
    ∀ entry ∈ row.keyedCells table, entry.2.IsCarried := by
  intro entry hentry
  rcases List.mem_append.mp hentry with hfirst | hcorner
  · rcases List.mem_cons.mp hfirst with rfl | hsecond
    · exact hrow.label
    · rw [List.mem_singleton.mp hsecond]
      exact hrow.confidence
  · obtain ⟨⟨key, i⟩, -, rfl⟩ := List.mem_map.mp hcorner
    dsimp only
    cases hget : row.corners[i]? with
    | none => exact .null
    | some cell => exact hrow.corners cell (List.mem_of_getElem? hget)

theorem documentEntries_read {entries : List (String × Cell)}
    (hentries : ∀ entry ∈ entries, entry.2.IsCarried) :
    ∃ texts, entries.mapM (fun entry => documentEntry entry.1 entry.2) = .ok texts ∧
      ∀ room, List.Forall₂ (ReadsEntry escapedChar ":" room) texts
        (entries.map fun entry => (entry.1, entry.2.carried)) := by
  have hall : ∀ entry ∈ entries, ∃ text, documentEntry entry.1 entry.2 = .ok text ∧
      ∀ room, ReadsEntry escapedChar ":" room text (entry.1, entry.2.carried) := by
    intro entry hentry
    obtain ⟨text, htext, -, hreads⟩ := (hentries entry hentry).reads
    refine ⟨entryText escapedChar ":" entry.1 text, ?_, fun room => ⟨text, rfl, hreads room⟩⟩
    rw [documentEntry, htext]
    rfl
  obtain ⟨texts, htexts, hkinds⟩ := exists_mapM_ok hall
  refine ⟨texts, htexts, fun room => List.forall₂_map_right_iff.mpr ?_⟩
  exact hkinds.imp fun _ _ hreads => hreads room

theorem separates_comma : Separates "," ',' := ⟨[], rfl, rfl⟩

theorem separates_colon : Separates ":" ':' := ⟨[], rfl, rfl⟩

theorem ChildRow.keys_nodup (table : ChildTable) (row : ChildRow) :
    (keysOf ((row.keyedCells table).map fun entry => (entry.1, entry.2.carried))).Nodup := by
  have hkeys : keysOf ((row.keyedCells table).map fun entry => (entry.1, entry.2.carried)) =
      table.matchColumn :: "confidence" :: cornerKeys := rfl
  rw [hkeys]
  cases table <;> decide

/-- The document of a child row is read as what the row arrives as. -/
theorem ChildRow.IsCarried.reads (hrow : row.IsCarried) (table : ChildTable) :
    ∃ text, row.document table = .ok text ∧ (row.carried table).Short ∧
      ∀ room, ReadsFrom (room + 1) text (row.carried table) := by
  have hcells := @ChildRow.IsCarried.keyedCells table row hrow
  obtain ⟨texts, htexts, hall⟩ := documentEntries_read hcells
  refine ⟨"\x7b" ++ ",".intercalate texts ++ "\x7d", ?_, ?_, fun room => ?_⟩
  · change (row.keyedCells table).mapM (fun entry => documentEntry entry.1 entry.2) >>= _ = _
    rw [htexts]
    rfl
  · rw [ChildRow.carried, Value.short_map]
    intro entry hentry
    obtain ⟨cell, hcell, rfl⟩ := List.mem_map.mp hentry
    exact (hcells cell hcell).reads.choose_spec.2.1
  · exact readsFrom_map faithful_escapedChar separates_comma separates_colon
      (row.keys_nodup table) (hall room)

theorem documents_read {rows : List ChildRow} (hrows : ∀ row ∈ rows, row.IsCarried)
    (table : ChildTable) : ∃ texts, rows.mapM (·.document table) = .ok texts ∧
      ∀ room, List.Forall₂ (ReadsFrom (room + 1)) texts (rows.map (·.carried table)) := by
  have hall : ∀ row ∈ rows, ∃ text, row.document table = .ok text ∧
      ∀ room, ReadsFrom (room + 1) text (row.carried table) := by
    intro row hrow
    obtain ⟨text, htext, -, hreads⟩ := (hrows row hrow).reads table
    exact ⟨text, htext, hreads⟩
  obtain ⟨texts, htexts, hkinds⟩ := exists_mapM_ok hall
  refine ⟨texts, htexts, fun room => List.forall₂_map_right_iff.mpr ?_⟩
  exact hkinds.imp fun _ _ hreads => hreads room

/-- The child rows of an image as one value. -/
def rowsCarried (catalog : Catalog) (table : ChildTable) (id : Nat) : Value :=
  .list ((catalog.childrenOf table id).map (·.carried table))

/-- The document of the child rows of an image is read as what these rows arrive as. -/
theorem rowsDocument_read {catalog : Catalog} {id : Nat}
    (hrows : ∀ row ∈ catalog.childrenOf table id, row.IsCarried) :
    ∃ text, catalog.rowsDocument table id = .ok text ∧ isBlankText text = false ∧
      Json.read text = .ok (catalog.rowsCarried table id) := by
  obtain ⟨texts, htexts, hall⟩ := documents_read hrows table
  refine ⟨"[" ++ ",".intercalate texts ++ "]", ?_, ?_, ?_⟩
  · rw [rowsDocument, htexts]
    rfl
  · rw [isBlankText, String.toList_append, String.toList_append]
    rfl
  · have hreads : ReadsFrom nestingLimit _ (catalog.rowsCarried table id) :=
      readsFrom_list separates_comma (hall 988)
    rw [hreads.read, if_pos]
    rw [rowsCarried, Value.short_list]
    intro v hv
    obtain ⟨row, hrow, rfl⟩ := List.mem_map.mp hv
    exact ((hrows row hrow).reads table).choose_spec.2.1

end PhotoCatalog.Catalog
