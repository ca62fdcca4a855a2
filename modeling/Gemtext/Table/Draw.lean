import Gemtext.Table.Widths

/-!
# Drawing a table

Every cell is cut at its newlines and wrapped to the width of its column, the cells of a row are
brought to the same height, and each line is filled to the width of its column.  Rules are drawn
around the table, under the header and between the rows, as the decorations ask for.
-/

namespace Gemtext

namespace Table

/-- The lines of a cell in a column of the given width.  A blank line of the cell stays a line. -/
def cellLines (measure : Measure) (width : Nat) (cell : Text) : List Text :=
  (Text.splitOn '\n' cell).flatMap fun line =>
    if line.allBlank then [[]] else Text.wrap measure width line

/-- The lines of a cell between enough empty lines to reach `height`. -/
def padLines (alignment : VerticalAlignment) (height : Nat) (lines : List Text) : List Text :=
  let missing := height - lines.length
  let above :=
    match alignment with
    | .top => 0
    | .middle => missing / 2
    | .bottom => missing
  List.replicate above [] ++ lines ++ List.replicate (missing - above) []

/-- Bring cells to the same height.  A column without an alignment is aligned to the top. -/
def padCells (height : Nat) : List VerticalAlignment → List (List Text) → List (List Text)
  | alignment :: alignments, lines :: cells =>
    padLines alignment height lines :: padCells height alignments cells
  | [], lines :: cells => padLines .top height lines :: padCells height [] cells
  | _, [] => []

/-- The lines of the cells of a row, all of the same height. -/
def rowLines (measure : Measure) (row : List Text) (widths : List Nat)
    (alignments : List VerticalAlignment) : List (List Text) :=
  let cells := List.zipWith (fun cell width => cellLines measure width cell) row widths
  padCells ((cells.map List.length).foldl max 0) alignments cells

/-- A line of a cell, filled with spaces to the width of its column. -/
def fillLine (measure : Measure) (alignment : Alignment) (width : Nat) (line : Text) : Text :=
  let fill := width - Text.width measure line
  match alignment with
  | .left => line ++ Text.spaces fill
  | .right => Text.spaces fill ++ line
  | .center => Text.spaces (fill / 2) ++ line ++ Text.spaces (fill - fill / 2)

/-- One line of each cell, filled to the widths of the columns.  A column without an alignment
is aligned to the left. -/
def fillLines (measure : Measure) : List Alignment → List Nat → List Text → List Text
  | alignment :: alignments, width :: widths, line :: lines =>
    fillLine measure alignment width line :: fillLines measure alignments widths lines
  | [], width :: widths, line :: lines =>
    fillLine measure .left width line :: fillLines measure [] widths lines
  | _, _, _ => []

/-- The border glyph and padding around a line, if there is a border. -/
def frame (t : Table) (first padding last : Char) (line : Text) : Text :=
  if t.decorations.border then
    let pad := List.replicate t.padding padding
    first :: pad ++ line ++ pad ++ [last]
  else line

/-- The drawn lines of a row. -/
def drawRow (t : Table) (widths : List Nat) (alignments : List Alignment)
    (verticalAlignments : List VerticalAlignment) (row : List Text) : List Text :=
  let cells := rowLines t.measure row widths verticalAlignments
  let vertical := if t.decorations.columnRules then t.glyphs.vertical else ' '
  let pad := Text.spaces t.padding
  (List.range (cells.headD []).length).map fun i =>
    let line := fillLines t.measure alignments widths (cells.map (·.getD i []))
    t.frame t.glyphs.vertical ' ' t.glyphs.vertical
      (Text.joinWith (pad ++ vertical :: pad) line)

/-- The glyphs of one horizontal rule: its ends, its crossings and the line itself. -/
structure Rule where
  left : Char
  cross : Char
  right : Char
  line : Char

/-- The rule above the table. -/
def topRule (g : Glyphs) : Rule :=
  ⟨g.topLeft, g.top, g.topRight, g.horizontal⟩

/-- The rule under the header. -/
def headerRule (g : Glyphs) : Rule :=
  ⟨g.headLeft, g.headCross, g.headRight, g.headHorizontal⟩

/-- The rule between two rows. -/
def rowRule (g : Glyphs) : Rule :=
  ⟨g.left, g.cross, g.right, g.horizontal⟩

/-- The rule below the table. -/
def bottomRule (g : Glyphs) : Rule :=
  ⟨g.bottomLeft, g.bottom, g.bottomRight, g.horizontal⟩

/-- A horizontal rule across columns of the given widths. -/
def drawRule (t : Table) (widths : List Nat) (rule : Rule) : Text :=
  let pad := List.replicate t.padding rule.line
  let cross := if t.decorations.columnRules then rule.cross else rule.line
  t.frame rule.left rule.line rule.right
    (Text.joinWith (pad ++ cross :: pad) (widths.map fun width => List.replicate width rule.line))

/-- The blocks of lines in order, with the line `rule?`, if any, between each two. -/
def joinBlocks (rule? : Option Text) : List (List Text) → List Text
  | [] => []
  | [block] => block
  | block :: blocks => block ++ rule?.toList ++ joinBlocks rule? blocks

/-- The drawn lines of the table, for columns of the given widths. -/
def drawLines (t : Table) (widths : List Nat) : List Text :=
  let columns := widths.length
  let alignments := t.alignments.getD (List.replicate columns .left)
  let headerAlignments := t.headerAlignments.getD (List.replicate columns .center)
  let verticalAlignments := t.verticalAlignments.getD (List.replicate columns .top)
  let rule (present : Bool) (of : Glyphs → Rule) : Option Text :=
    if present then some (t.drawRule widths (of t.glyphs)) else none
  let header :=
    if t.header.isEmpty then []
    else
      t.drawRow widths headerAlignments (List.replicate columns .top) t.header ++
        (rule t.decorations.headerRule headerRule).toList
  let rows :=
    joinBlocks (rule t.decorations.rowRules rowRule)
      (t.rows.map (t.drawRow widths alignments verticalAlignments))
  (rule t.decorations.border topRule).toList ++ header ++ rows ++
    (rule t.decorations.border bottomRule).toList

/-- Draw the table, without a newline at its end.  A table without header and rows is empty. -/
def draw (t : Table) : Except TableError Text :=
  if t.header.isEmpty && t.rows.isEmpty then .ok []
  else t.columnWidths.map fun widths => Text.joinWith ['\n'] (t.drawLines widths)

end Table

end Gemtext
