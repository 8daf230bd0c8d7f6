import PhotoCatalog.Proofs.Catalog.Accepted
import PhotoCatalog.Proofs.Catalog.ResultRow
import PhotoCatalog.Proofs.Command.Carried
import PhotoCatalog.Proofs.Record.Bounded
import PhotoCatalog.Proofs.Search.Append

/-!
Results to which the same search is appended.  Begun with its own records, taken as they are or
printed as documents and read back, a search returns these records and no others.
-/

namespace PhotoCatalog

open PhotoCatalog.Command PhotoCatalog.Text

namespace Catalog

/-- Catalogs as a database stores them: neither a value in them nor the document of an image's child
rows is larger than the database allows. -/
structure IsStored (catalog : Catalog) : Prop where
  cells : ∀ image ∈ catalog.images, ∀ entry ∈ image.namedCells, entry.2.toValue.IsStored
  documents : ∀ image ∈ catalog.images, ∀ table text,
    catalog.rowsDocument table image.id = .ok text → text.length < storedLength

variable {catalog : Catalog} {statement : Query.Statement}

theorem IsStored.resultRow (hstored : catalog.IsStored) {image : ImageRow}
    (himage : image ∈ catalog.images) {row : Row} (hrow : catalog.resultRow image = .ok row) :
    row.IsStored := by
  obtain ⟨people, objects, hpeople, hobjects, rfl⟩ := resultRow_eq_ok hrow
  intro entry hentry
  rcases List.mem_append.mp hentry with hcell | hdocument
  · obtain ⟨named, hnamed, rfl⟩ := List.mem_map.mp hcell
    exact hstored.cells image himage named hnamed
  · simp only [List.mem_cons, List.not_mem_nil, or_false] at hdocument
    rcases hdocument with rfl | rfl
    · exact hstored.documents image himage _ _ hpeople
    · exact hstored.documents image himage _ _ hobjects

/-- The rows that a stored catalog delivers are stored rows. -/
theorem IsStored.answer (hstored : catalog.IsStored)
    (hfault : (catalog.answer statement).fault = none) :
    ∀ row ∈ (catalog.answer statement).rows, row.IsStored := by
  intro row hrow
  obtain ⟨image, himage, -, hresult⟩ := (mem_answer_rows hfault).mp hrow
  exact hstored.resultRow himage hresult

/-- Where no image has a path that looks like an embedded image, no row has one. -/
theorem answer_plain (hplain : ∀ image ∈ catalog.images, isEmbedded image.pathName = false)
    (hfault : (catalog.answer statement).fault = none) :
    ∀ row ∈ (catalog.answer statement).rows, isEmbedded (rowPath row) = false := by
  intro row hrow
  obtain ⟨image, himage, -, hresult⟩ := (mem_answer_rows hfault).mp hrow
  have hpath : rowPath row = image.pathName := congrArg pathText (resultRow_path hresult)
  rw [hpath]
  exact hplain image himage

end Catalog

namespace Search

open PhotoCatalog.Catalog

variable {catalog : Catalog} {task : Task}

/-- The records that are found in a stored catalog are well-formed, and their documents are short. -/
theorem found_records {seen seen' : Seen} {rows : List Row} {records : List Record}
    (hpasses : task.Passes seen (rows.map .row) records seen')
    (hrows : ∀ row ∈ rows, row.IsStored) :
    ∀ record ∈ records, record.WellFormed ∧ record.document.Short := by
  intro record hrecord
  obtain ⟨candidate, hcandidate, hyields⟩ := hpasses.yields record hrecord
  obtain ⟨row, hrow, rfl⟩ := List.mem_map.mp hcandidate
  obtain ⟨read, hread, -, hresult⟩ := hyields
  have hwellFormed : (task.restricted read).WellFormed :=
    (Record.ofRow_wellFormed hread).restrict _
  have hbounded : (task.restricted read).Bounded :=
    (Record.ofRow_bounded (hrows row hrow) hread).restrict _
  split at hresult
  · obtain ⟨address, -, rfl⟩ := hresult
    exact ⟨hwellFormed.withPath address, (hbounded.withPath address).short_document⟩
  · rw [hresult]
    exact ⟨hwellFormed, hbounded.short_document⟩

/-- Three images, of which nothing but the path is known. -/
def twins : Catalog :=
  ⟨[⟨1, .text "a.jpg", []⟩, ⟨2, .text "b.jpg", []⟩, ⟨3, .text "c.jpg", []⟩], fun _ => [], []⟩

/-- The first two images are the same file, and the third one cannot be read. -/
def twinFiles : Image.Folder := .ofList [("a.jpg", [1, 2]), ("b.jpg", [1, 2])]

end Search

end PhotoCatalog
