import PhotoCatalog.Terminal.Markup
import PhotoCatalog.Terminal.Wrap

/-!
Tables in a frame of lines, heavy ones around the head.  A column is as wide as its widest cell, or
has a width of its own; every cell has a blank on both sides.
-/

namespace PhotoCatalog.Terminal

/-- A column: its head, where its cells stand, and its width if that does not follow from them. -/
structure Column where
  head : String
  alignment : Alignment
  width : Option Nat

structure Table where
  columns : List Column
  rows : List (List String)

/-- The cells of a row, as many as there are columns. -/
def Table.cells (table : Table) (row : List String) : List String :=
  table.columns.zipIdx.map fun (_, i) => (row[i]?).getD ""

def Table.widths (table : Table) : List Nat :=
  table.columns.zipIdx.map fun (column, i) =>
    match column.width with
    | some width => width
    | none =>
      let cells := column.head :: table.rows.map fun row => (row[i]?).getD ""
      (cells.map widthOf).foldl max 0

structure Rule where
  first : Char
  line : Char
  cross : Char
  last : Char

def Rule.draw (rule : Rule) (widths : List Nat) : String :=
  let parts := widths.map fun width => String.ofList (List.replicate (width + 2) rule.line)
  rule.first.toString ++ (rule.cross.toString).intercalate parts ++ rule.last.toString

def topRule : Rule := ⟨'┏', '━', '┳', '┓'⟩

def headRule : Rule := ⟨'┡', '━', '╇', '┩'⟩

def bottomRule : Rule := ⟨'└', '─', '┴', '┘'⟩

/-- The lines of one row, between vertical lines; a cell with fewer lines than another one is filled
up with blanks. -/
def Table.drawRow (table : Table) (bar : Char) (row : List String) : List String :=
  let columns := table.columns.zip (table.widths.zip (table.cells row))
  let cells := columns.map fun (column, width, cell) => (width, wrap column.alignment width cell)
  let height := (cells.map fun (_, lines) => lines.length).foldl max 1
  (List.range height).map fun i =>
    let parts := cells.map fun (width, lines) =>
      " " ++ (lines[i]?).getD (String.ofList (List.replicate width ' ')) ++ " "
    bar.toString ++ (bar.toString).intercalate parts ++ bar.toString

def Table.width (table : Table) : Nat :=
  table.widths.foldl (fun sum width => sum + width + 3) 1

/-- The lines of a table, its marked-up cells as they are shown. -/
def Table.draw (table : Table) (title : Option String) : List String :=
  let table := { table with rows := table.rows.map (List.map shown) }
  let titleLines := title.toList.flatMap (wrap .center table.width)
  titleLines ++ [topRule.draw table.widths]
    ++ table.drawRow '┃' (table.columns.map Column.head)
    ++ [headRule.draw table.widths]
    ++ table.rows.flatMap (table.drawRow '│')
    ++ [bottomRule.draw table.widths]

end PhotoCatalog.Terminal
