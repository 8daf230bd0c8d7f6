import PhotoCatalog.Proofs.Catalog.Documents
import PhotoCatalog.Record.Lookup

/-!
The row that a query delivers for an image: the columns of the image as they are, and the people and
objects of its child rows as documents.
-/

namespace PhotoCatalog.Catalog

open PhotoCatalog.Text

variable {catalog : Catalog} {image : ImageRow} {row : Row} {column : String}

/-- Images that have the columns of their table, and no others. -/
def ImageRow.HasColumns (image : ImageRow) : Prop :=
  image.cells.map Prod.fst = imageColumns.map Prod.fst

theorem lookup_map_values {α β : Type} (f : α → β) (entries : List (String × α)) (key : String) :
    (entries.map fun e => (e.1, f e.2)).lookup key = (entries.lookup key).map f := by
  induction entries with
  | nil => rfl
  | cons entry entries ih =>
      rw [List.map_cons, List.lookup_cons, List.lookup_cons]
      cases key == entry.1 with
      | true => rfl
      | false => exact ih

theorem lookup_eq_none_of_keys {α : Type} {entries : List (String × α)} {key : String}
    (hkey : key ∉ entries.map Prod.fst) : entries.lookup key = none := by
  rw [List.lookup_eq_none_iff]
  intro entry hentry
  rw [bne_iff_ne]
  rintro rfl
  exact hkey (List.mem_map_of_mem hentry)

/-- The cells of an image under the names of their columns. -/
def ImageRow.namedCells (image : ImageRow) : List (String × Cell) :=
  ("id", .int image.id) :: ("path", image.path) :: image.cells

theorem resultRow_eq_ok (hrow : catalog.resultRow image = .ok row) : ∃ people objects,
    catalog.rowsDocument .people image.id = .ok people ∧
      catalog.rowsDocument .objects image.id = .ok objects ∧
      row = (image.namedCells.map fun e => (e.1, e.2.toValue)) ++
        [(peopleRowsColumn, .text people), (objectRowsColumn, .text objects)] := by
  obtain ⟨people, hpeople, hrow⟩ := bind_eq_ok.mp hrow
  obtain ⟨objects, hobjects, hrow⟩ := bind_eq_ok.mp hrow
  rw [pure_eq_ok] at hrow
  exact ⟨people, objects, hpeople, hobjects, hrow.symm⟩

theorem lookup_namedCells (image : ImageRow) (column : String) :
    (image.namedCells.lookup column).getD .null = image.cell column := by
  rw [ImageRow.namedCells, List.lookup_cons, List.lookup_cons, ImageRow.cell]
  by_cases hpath : column = "path"
  · subst hpath
    rfl
  by_cases hid : column = "id"
  · subst hid
    rfl
  rw [if_neg hpath, if_neg hid, beq_false_of_ne hid, beq_false_of_ne hpath]

/-- A column of the image keeps its value. -/
theorem resultRow_get (hrow : catalog.resultRow image = .ok row)
    (hpeople : column ≠ peopleRowsColumn) (hobjects : column ≠ objectRowsColumn) :
    row.get column = (image.cell column).toValue := by
  obtain ⟨people, objects, -, -, rfl⟩ := resultRow_eq_ok hrow
  have hrest : List.lookup column
      [(peopleRowsColumn, Value.text people), (objectRowsColumn, Value.text objects)] = none := by
    apply lookup_eq_none_of_keys
    simp only [List.map_cons, List.map_nil, List.mem_cons, List.not_mem_nil, or_false, not_or]
    exact ⟨hpeople, hobjects⟩
  rw [Row.get, List.lookup_append, lookup_map_values, hrest, Option.or_none, ← lookup_namedCells]
  cases image.namedCells.lookup column <;> rfl

/-- The documents of the child rows stand behind all columns of the image. -/
theorem resultRow_documents (hcolumns : image.HasColumns)
    (hrow : catalog.resultRow image = .ok row) :
    ∃ people objects, catalog.rowsDocument .people image.id = .ok people ∧
      catalog.rowsDocument .objects image.id = .ok objects ∧
      row.get peopleRowsColumn = .text people ∧ row.get objectRowsColumn = .text objects := by
  obtain ⟨people, objects, hpeople, hobjects, rfl⟩ := resultRow_eq_ok hrow
  have hkeys : image.namedCells.map Prod.fst = "id" :: "path" :: imageColumns.map Prod.fst := by
    rw [ImageRow.namedCells, List.map_cons, List.map_cons, hcolumns]
  have hnone : ∀ column, column ∉ "id" :: "path" :: imageColumns.map Prod.fst →
      (image.namedCells.map fun e => (e.1, e.2.toValue)).lookup column = none := by
    intro column hcolumn
    rw [lookup_map_values, lookup_eq_none_of_keys (hkeys ▸ hcolumn)]
    rfl
  refine ⟨people, objects, hpeople, hobjects, ?_, ?_⟩
  · rw [Row.get, List.lookup_append, hnone _ (by decide +kernel)]
    rfl
  · rw [Row.get, List.lookup_append, hnone _ (by decide +kernel)]
    rfl

/-- An image has a row when documents carry its child rows. -/
theorem exists_resultRow
    (hpeople : ∀ child ∈ catalog.childrenOf .people image.id, child.IsCarried)
    (hobjects : ∀ child ∈ catalog.childrenOf .objects image.id, child.IsCarried) :
    ∃ row, catalog.resultRow image = .ok row := by
  obtain ⟨people, hpeople, -⟩ := rowsDocument_read hpeople
  obtain ⟨objects, hobjects, -⟩ := rowsDocument_read hobjects
  rw [resultRow, hpeople, hobjects]
  exact ⟨_, rfl⟩

end PhotoCatalog.Catalog
