import Gemtext.Table.CellFormat
import Gemtext.Table.Glyphs
import Gemtext.Text.Wrap

/-!
# Tables

A table is assembled from a header, rows and settings per column, and drawn by
`Gemtext.Table.Draw`.  The first setting, header or row that states a number of columns fixes it,
and everything that disagrees later is refused.  `Table.reset` forgets the number of columns
together with the header and the rows, but keeps the settings.
-/

namespace Gemtext

/-- Where a cell stands in the width of its column. -/
inductive Alignment where
  | left
  | center
  | right
  deriving DecidableEq, Repr

/-- Where a cell stands in the height of its row. -/
inductive VerticalAlignment where
  | top
  | middle
  | bottom
  deriving DecidableEq, Repr

/-- Which rules a table is drawn with. -/
structure Decorations where
  /-- A frame around the table. -/
  border : Bool
  /-- A rule under the header. -/
  headerRule : Bool
  /-- Rules between the rows. -/
  rowRules : Bool
  /-- Rules between the columns. -/
  columnRules : Bool
  deriving DecidableEq, Repr

namespace Decorations

/-- Every rule. -/
def all : Decorations :=
  ⟨true, true, true, true⟩

/-- No rule. -/
def none : Decorations :=
  ⟨false, false, false, false⟩

end Decorations

/-- A table that is being assembled.  The settings per column are absent until they are made. -/
structure Table where
  header : List Text
  rows : List (List Text)
  columnCount : Option Nat
  alignments : Option (List Alignment)
  headerAlignments : Option (List Alignment)
  verticalAlignments : Option (List VerticalAlignment)
  types : Option (List CellType)
  fixedWidths : Option (List Nat)
  precision : Nat
  padding : Nat
  /-- The limit on the drawn width; zero sets none. -/
  maxWidth : Nat
  decorations : Decorations
  glyphs : Glyphs
  measure : Measure

namespace Table

/-- A table without columns that measures characters by `measure`. -/
def empty (measure : Measure) : Table where
  header := []
  rows := []
  columnCount := none
  alignments := none
  headerAlignments := none
  verticalAlignments := none
  types := none
  fixedWidths := none
  precision := 3
  padding := 1
  maxWidth := 80
  decorations := .all
  glyphs := .ascii
  measure := measure

/-- The table once something with `found` columns is put into it: the first one fixes the number
of columns. -/
def fitColumns (t : Table) (found : Nat) : Except TableError Table :=
  match t.columnCount with
  | none => .ok { t with columnCount := some found }
  | some expected =>
    if expected = found then .ok t else .error (.columnCountMismatch expected found)

/-- Draw with the glyphs of a named style. -/
def setStyle (t : Table) (name : Text) : Except TableError Table :=
  (Glyphs.named name).map fun glyphs => { t with glyphs }

/-- Draw with the glyphs of a text of four or fifteen characters. -/
def setGlyphs (t : Table) (glyphs : Text) : Except TableError Table :=
  (Glyphs.ofText glyphs).map fun glyphs => { t with glyphs }

/-- Align the cells of the rows, column by column. -/
def setAlignments (t : Table) (alignments : List Alignment) : Except TableError Table :=
  (t.fitColumns alignments.length).map fun t => { t with alignments := some alignments }

/-- Align the cells of the header, column by column. -/
def setHeaderAlignments (t : Table) (alignments : List Alignment) : Except TableError Table :=
  (t.fitColumns alignments.length).map fun t => { t with headerAlignments := some alignments }

/-- Align the cells of the rows in height, column by column. -/
def setVerticalAlignments (t : Table) (alignments : List VerticalAlignment) :
    Except TableError Table :=
  (t.fitColumns alignments.length).map fun t => { t with verticalAlignments := some alignments }

/-- Set the type of each column, for the rows that are added from then on. -/
def setTypes (t : Table) (types : List CellType) : Except TableError Table :=
  (t.fitColumns types.length).map fun t => { t with types := some types }

/-- Give the columns fixed widths, of one place at least, in place of measured ones. -/
def setWidths (t : Table) (widths : List Nat) : Except TableError Table :=
  (t.fitColumns widths.length).map fun t => { t with fixedWidths := some (widths.map (max · 1)) }

/-- Set the number of digits after the point in formatted cells. -/
def setPrecision (t : Table) (precision : Nat) : Table :=
  { t with precision }

/-- Set the number of spaces on either side of a column rule. -/
def setPadding (t : Table) (padding : Nat) : Table :=
  { t with padding }

/-- Limit the drawn width; zero lifts the limit. -/
def setMaxWidth (t : Table) (maxWidth : Nat) : Table :=
  { t with maxWidth }

/-- Choose the rules that are drawn. -/
def setDecorations (t : Table) (decorations : Decorations) : Table :=
  { t with decorations }

/-- Set the header. -/
def setHeader (t : Table) (header : List Text) : Except TableError Table :=
  (t.fitColumns header.length).map fun t => { t with header }

/-- The cells of a row, each written by the type of its column; a column without a type holds
text. -/
def formatRow (precision : Nat) : List CellType → List Text → List Text
  | type :: types, cell :: cells =>
    formatCell type precision cell :: formatRow precision types cells
  | [], cells => cells
  | _, [] => []

/-- Add a row below the others. -/
def addRow (t : Table) (row : List Text) : Except TableError Table :=
  (t.fitColumns row.length).map fun t =>
    { t with rows := t.rows ++ [formatRow t.precision (t.types.getD []) row] }

/-- Add rows up to the first that is refused: the table with the rows before it, and why it is
refused. -/
def addRows (t : Table) : List (List Text) → Table × Option TableError
  | [] => (t, none)
  | row :: rows =>
    match t.addRow row with
    | .error e => (t, some e)
    | .ok t => t.addRows rows

/-- Set the first of the rows as the header and add the others, up to the first that is
refused. -/
def addRowsWithHeader (t : Table) : List (List Text) → Table × Option TableError
  | [] => (t, none)
  | header :: rows =>
    match t.setHeader header with
    | .error e => (t, some e)
    | .ok t => t.addRows rows

/-- Drop the header, the rows and the number of columns. -/
def reset (t : Table) : Table :=
  { t with header := [], rows := [], columnCount := none }

end Table

end Gemtext
