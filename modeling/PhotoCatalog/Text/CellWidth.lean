import PhotoCatalog.Text.Span
import PhotoCatalog.Text.CellTable

/-!
The width of texts on a terminal, in cells.
-/

namespace PhotoCatalog.Text

def cellWidth (c : Char) : Nat :=
  if 32 ≤ c.toNat ∧ c.toNat < 127 then 1
  else if inSpans zeroWidthSpans c then 0
  else if inSpans wideSpans c then 2
  else 1

/-- The number of cells that a list of characters takes. -/
def cellsOf (cs : List Char) : Nat := cs.foldr (fun c cells => cellWidth c + cells) 0

end PhotoCatalog.Text
