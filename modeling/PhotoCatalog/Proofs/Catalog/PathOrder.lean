import Mathlib.Data.List.Nodup
import Mathlib.Data.String.Basic
import PhotoCatalog.Catalog.Answer
import PhotoCatalog.Record.Reader
import PhotoCatalog.Seen

/-!
The order in which a query delivers images.  The catalog sorts by inserting image after image; what
comes of it holds the same images, and where their paths are distinct texts, these strictly increase
code point by code point.
-/

namespace PhotoCatalog.Catalog

/-- The path of an image as its record gives it. -/
def ImageRow.pathName (image : ImageRow) : String := pathText image.path.toValue

/-- Catalogs in which every path is a text of its own. -/
structure HasTextPaths (catalog : Catalog) : Prop where
  isText : ∀ image ∈ catalog.images, ∃ s, image.path = .text s
  distinct : (catalog.images.map ImageRow.pathName).Nodup

/-- Catalogs in which, beyond that, no path looks like an embedded image. -/
structure HasPlainPaths (catalog : Catalog) : Prop extends HasTextPaths catalog where
  notEmbedded : ∀ image ∈ catalog.images, isEmbedded image.pathName = false

/-- A path belongs to one image only. -/
theorem HasTextPaths.eq_of_pathName_eq {catalog : Catalog} (hpaths : catalog.HasTextPaths)
    {a b : ImageRow} (ha : a ∈ catalog.images) (hb : b ∈ catalog.images)
    (hname : a.pathName = b.pathName) : a = b :=
  List.inj_on_of_nodup_map hpaths.distinct ha hb hname

theorem pathName_of_text {image : ImageRow} {s : String} (h : image.path = .text s) :
    image.pathName = s := by
  simp [ImageRow.pathName, h, Cell.toValue, pathText, Value.isNull, Value.shown]

/-- Texts are ordered as paths are shown. -/
theorem order_eq_lt_iff {a b : ImageRow} (ha : ∃ s, a.path = .text s)
    (hb : ∃ s, b.path = .text s) :
    (a.path.order b.path == .lt) = true ↔ a.pathName < b.pathName := by
  obtain ⟨s, hs⟩ := ha
  obtain ⟨t, ht⟩ := hb
  rw [pathName_of_text hs, pathName_of_text ht, hs, ht, beq_iff_eq]
  exact compareOfLessAndEq_eq_lt

theorem insertByPath_perm (row : ImageRow) (rows : List ImageRow) :
    (insertByPath row rows).Perm (row :: rows) := by
  induction rows with
  | nil => exact .refl _
  | cons head rest ih =>
      rw [insertByPath]
      split
      · exact .refl _
      · exact (ih.cons head).trans (.swap row head rest)

theorem foldl_insertByPath_perm (images sorted : List ImageRow) :
    (images.foldl (flip insertByPath) sorted).Perm (images ++ sorted) := by
  induction images generalizing sorted with
  | nil => exact .refl _
  | cons image rest ih =>
      rw [List.foldl_cons, List.cons_append]
      refine (ih (insertByPath image sorted)).trans ?_
      exact ((insertByPath_perm image sorted).append_left rest).trans List.perm_middle

theorem byPath_perm (catalog : Catalog) : catalog.byPath.Perm catalog.images := by
  simpa [byPath] using foldl_insertByPath_perm catalog.images []

theorem mem_byPath {catalog : Catalog} {image : ImageRow} :
    image ∈ catalog.byPath ↔ image ∈ catalog.images :=
  (byPath_perm catalog).mem_iff

/-- The images come in the order of their paths. -/
def SortedByPath (rows : List ImageRow) : Prop :=
  rows.Pairwise fun a b => a.pathName ≤ b.pathName

/-- One insertion keeps the order. -/
theorem insertByPath_sorted {row : ImageRow} {rows : List ImageRow}
    (hrow : ∃ s, row.path = .text s) (hrows : ∀ other ∈ rows, ∃ s, other.path = .text s)
    (hsorted : SortedByPath rows) : SortedByPath (insertByPath row rows) := by
  induction rows with
  | nil => simp [insertByPath, SortedByPath]
  | cons head rest ih =>
      have hhead := hrows head List.mem_cons_self
      obtain ⟨hbelow, hrest⟩ := List.pairwise_cons.mp hsorted
      rw [insertByPath]
      split
      · rename_i hless
        have hlt := (order_eq_lt_iff hrow hhead).mp hless
        refine List.pairwise_cons.mpr ⟨?_, hsorted⟩
        intro other hother
        rcases List.mem_cons.mp hother with rfl | hother
        · exact le_of_lt hlt
        · exact le_trans (le_of_lt hlt) (hbelow other hother)
      · rename_i hnot
        have hle : head.pathName ≤ row.pathName := by
          rw [← not_lt]
          exact fun hlt => hnot ((order_eq_lt_iff hrow hhead).mpr hlt)
        refine List.pairwise_cons.mpr ⟨?_, ih ?_ hrest⟩
        · intro other hother
          rcases List.mem_cons.mp ((insertByPath_perm row rest).mem_iff.mp hother) with rfl | hother
          · exact hle
          · exact hbelow other hother
        · exact fun other hother => hrows other (List.mem_cons_of_mem head hother)

theorem foldl_insertByPath_sorted {images sorted : List ImageRow}
    (himages : ∀ image ∈ images, ∃ s, image.path = .text s)
    (htexts : ∀ image ∈ sorted, ∃ s, image.path = .text s) (hsorted : SortedByPath sorted) :
    SortedByPath (images.foldl (flip insertByPath) sorted) := by
  -- The sorted part takes in one image after the other, and its paths stay texts.
  induction images generalizing sorted with
  | nil => exact hsorted
  | cons image rest ih =>
      have himage := himages image List.mem_cons_self
      apply ih
      · exact fun other hother => himages other (List.mem_cons_of_mem image hother)
      · intro other hother
        rcases List.mem_cons.mp ((insertByPath_perm image sorted).mem_iff.mp hother) with
          rfl | hother
        · exact himage
        · exact htexts other hother
      · exact insertByPath_sorted himage htexts hsorted

/-- Where paths are distinct texts, they strictly increase. -/
theorem byPath_strictly_increasing {catalog : Catalog} (hpaths : catalog.HasTextPaths) :
    (catalog.byPath.map ImageRow.pathName).Pairwise (· < ·) := by
  have hsorted : SortedByPath catalog.byPath :=
    foldl_insertByPath_sorted hpaths.isText (by simp) List.Pairwise.nil
  have hdistinct : (catalog.byPath.map ImageRow.pathName).Nodup :=
    ((byPath_perm catalog).map ImageRow.pathName).nodup_iff.mpr hpaths.distinct
  rw [List.pairwise_map]
  refine (hsorted.and (List.pairwise_map.mp hdistinct)).imp ?_
  intro a b hboth
  exact lt_of_le_of_ne hboth.1 hboth.2

end PhotoCatalog.Catalog
