import Gemtext.Proofs.Content.Marks
import Gemtext.Proofs.Render.TableFree
import Gemtext.Proofs.Render.Tables
import Gemtext.Proofs.Table.Widths

/-!
# The texts of a table

The texts of the cells of a table are known once the cells are rendered (`Markdown.Node.rowTexts`).
They tell how wide the table is at least (`Grid.leastWidth`).  The renderer gathers them in a table,
the header first and then the rows with as many cells (`Grid.toTable`), and that table cannot be
drawn just if the limit is too low for its texts (`Table.Gathers.draw_eq_error`).  The link lines of
all cells are put by for after the table.
-/

namespace Gemtext

/-- The texts of the cells of a table. -/
structure Grid where
  header : List Text
  rows : List (List Text)
  deriving DecidableEq, Repr

namespace Grid

/-- The rows that are drawn: those with as many cells as the header. -/
def fullRows (g : Grid) : List (List Text) :=
  g.rows.filter fun row => row.length = g.header.length

/-- The width of the widest cell of a column, be it in the header or in a row that is drawn. -/
def columnNeed (measure : Measure) (g : Grid) (column : Nat) : Nat :=
  ((g.header :: g.fullRows).map fun row =>
    Text.cellWidth measure (row.getD column [])).foldl max 0

/-- The places that all columns need together. -/
def need (measure : Measure) (g : Grid) : Nat :=
  ((List.range g.header.length).map (g.columnNeed measure)).sum

/-- The places that the border, the rules between the columns and the spaces beside them take. -/
def decoration (g : Grid) : Nat :=
  3 * (g.header.length - 1) + 4

/-- The least limit that the table can be drawn with: it leaves the columns what they need, or one
place for each of them. -/
def leastWidth (measure : Measure) (g : Grid) : Nat :=
  g.decoration + min g.header.length (g.need measure)

/-- Whether there is a limit and the table cannot be drawn within it. -/
def exceeds (c : Conversion) (g : Grid) : Bool :=
  0 < c.maxTableWidth && c.maxTableWidth < g.leastWidth c.measure

/-- Why the table cannot be drawn within the limit. -/
def cause (c : Conversion) (g : Grid) : TableError :=
  .maxWidthTooSmall c.maxTableWidth (g.header.length + g.decoration)

/-- The grid whose first row is the header. -/
def ofRows : List (List Text) → Grid
  | [] => ⟨[], []⟩
  | header :: rows => ⟨header, rows⟩

/-- The table that is drawn for the grid: a new one with the limit of the options and the given
glyphs, which is empty but for the header, the rows that are drawn and the alignments. -/
def toTable (c : Conversion) (glyphs : Glyphs) (alignments : List Alignment) (g : Grid) : Table :=
  { Table.empty c.measure with
    header := g.header
    rows := g.fullRows
    columnCount := some g.header.length
    alignments := some alignments
    verticalAlignments := some (g.header.map fun _ => .middle)
    maxWidth := c.maxTableWidth
    glyphs }

end Grid

/-! ## Gathered tables -/

namespace Table

/-- The table holds the texts of the grid, as the renderer gathers them. -/
structure Gathers (c : Conversion) (g : Grid) (t : Table) : Prop where
  header : t.header = g.header
  rows : t.rows = g.fullRows
  columnCount : t.columnCount = some g.header.length
  types : t.types = none
  fixedWidths : t.fixedWidths = none
  padding : t.padding = 1
  maxWidth : t.maxWidth = c.maxTableWidth
  border : t.decorations.border
  measure : t.measure = c.measure

namespace Gathers

variable {c : Conversion} {g : Grid} {t : Table}

/-- The columns need together what the grid says. -/
theorem sum_contentWidths (ht : t.Gathers c g) : t.contentWidths.sum = g.need c.measure := by
  rw [contentWidths_eq, ht.columnCount, Option.getD_some, Grid.need]
  refine congrArg List.sum (List.map_congr_left fun column _ => ?_)
  rw [Table.columnNeed, Grid.columnNeed, ht.header, ht.rows, ht.measure]
  refine congrArg (List.foldl max 0) (List.map_congr_left fun row _ => ?_)
  rw [List.getD_eq_getElem?_getD, List.getD_eq_getElem?_getD, List.getElem?_map]
  cases row[column]? <;> rfl

/-- The gathered table cannot be drawn just if it exceeds the limit. -/
theorem draw_eq_error (ht : t.Gathers c g) (hheader : g.header ≠ []) {cause : TableError} :
    t.draw = .error cause ↔ g.exceeds c ∧ cause = g.cause c := by
  have hdecoration : t.decorationWidth (t.columnCount.getD 0) = g.decoration := by
    rw [decorationWidth, ht.columnCount, Option.getD_some, ht.padding, if_pos ht.border,
      Grid.decoration]
  rw [Table.draw_eq_error, columnWidths_eq_error ht.fixedWidths, hdecoration, ht.sum_contentWidths,
    ht.columnCount, Option.getD_some, ht.maxWidth, ht.header, Grid.exceeds, Grid.cause,
    Grid.leastWidth, Bool.and_eq_true, decide_eq_true_eq, decide_eq_true_eq, and_assoc,
    and_iff_right fun hnone => hheader hnone.1]

end Gathers

end Table

namespace Grid

variable {c : Conversion} {glyphs : Glyphs} {alignments : List Alignment}

/-- The table that is drawn for a grid holds its texts. -/
theorem gathers_toTable (g : Grid) : (g.toTable c glyphs alignments).Gathers c g := by
  constructor <;> rfl

/-- A row with as many cells as the header is added as it is, and any other row is skipped. -/
theorem addRow_toTable (header : List Text) (rows : List (List Text)) (row : List Text) :
    (match (toTable c glyphs alignments ⟨header, rows⟩).addRow row with
      | .ok longer => longer
      | .error _ => toTable c glyphs alignments ⟨header, rows⟩) =
      toTable c glyphs alignments ⟨header, rows ++ [row]⟩ := by
  -- a row is added if it has as many cells as the header
  by_cases hlength : row.length = header.length
  · have hfull : (Grid.mk header (rows ++ [row])).fullRows =
        (Grid.mk header rows).fullRows ++ [row] := by
      simp [Grid.fullRows, hlength]
    have hformat : Table.formatRow 3 [] row = row := by cases row <;> rfl
    simp [toTable, Table.addRow, Table.fitColumns, Table.empty, Except.map, hlength, hfull, hformat]
  · have hskipped : (Grid.mk header (rows ++ [row])).fullRows = (Grid.mk header rows).fullRows := by
      simp [Grid.fullRows, hlength]
    have hrefused : header.length ≠ row.length := Ne.symm hlength
    simp [toTable, Table.addRow, Table.fitColumns, Except.map, hrefused, hskipped]

end Grid

/-! ## The texts that are rendered -/

namespace Markdown

namespace Node

/-- The content of a cell that is rendered from the state `s`. -/
def cellContent (c : Conversion) (level : Nat) (s : RenderState) (cell : Node) : Content :=
  match ((renderAll (gemtextRenderer c) level cell.children).run s).1 with
  | .ok content => content
  | .error _ => []

/-- The contents of the cells of a row. -/
def rowContents (c : Conversion) (isHead : Bool) (alignments : List Alignment) (level : Nat)
    (s : RenderState) : List Node → List Content
  | [] => []
  | cell :: cells =>
    let s' := ((renderCells (gemtextRenderer c) isHead alignments level [cell]).run s).2
    cellContent c level s cell :: rowContents c isHead alignments.tail level s' cells

/-- The contents of the cells of a table, row by row. -/
def tableContents (c : Conversion) (alignments : List Alignment) (level : Nat) (s : RenderState) :
    List Node → List (List Content)
  | [] => []
  | row :: rows =>
    let s' := ((renderRows (gemtextRenderer c) alignments level [row]).run s).2
    rowContents c (row.kind = .tableRow true) alignments level s row.children ::
      tableContents c alignments level s' rows

/-- The text of a cell that is rendered from the state `s`. -/
def cellText (c : Conversion) (level : Nat) (s : RenderState) (cell : Node) : Text :=
  match ((renderAll (gemtextRenderer c) level cell.children).run s).1 with
  | .ok content => content.visibleText.trim
  | .error _ => []

/-- The texts of the cells of a row. -/
def rowTexts (c : Conversion) (isHead : Bool) (alignments : List Alignment) (level : Nat)
    (s : RenderState) : List Node → List Text
  | [] => []
  | cell :: cells =>
    let s' := ((renderCells (gemtextRenderer c) isHead alignments level [cell]).run s).2
    cellText c level s cell :: rowTexts c isHead alignments.tail level s' cells

/-- The texts of the rows of a table. -/
def gridRows (c : Conversion) (alignments : List Alignment) (level : Nat) (s : RenderState) :
    List Node → List (List Text)
  | [] => []
  | row :: rows =>
    let s' := ((renderRows (gemtextRenderer c) alignments level [row]).run s).2
    rowTexts c (row.kind = .tableRow true) alignments level s row.children ::
      gridRows c alignments level s' rows

/-- The alignments of `count` cells: those of their columns, or to the left. -/
def columnAlignments (alignments : List Alignment) (count : Nat) : List Alignment :=
  (List.range count).map (alignments.getD · .left)

/-- The first cell is aligned as the first column. -/
theorem columnAlignments_succ (alignments : List Alignment) (count : Nat) :
    columnAlignments alignments (count + 1) =
      alignments.headD .left :: columnAlignments alignments.tail count := by
  rw [columnAlignments, List.range_succ_eq_map, List.map_cons, List.map_map, columnAlignments]
  refine congrArg₂ List.cons ?_ (List.map_congr_left fun column _ => ?_) <;>
    cases alignments <;> rfl

/-- The texts of the cells of a row are their visible texts, trimmed. -/
theorem rowTexts_eq (c : Conversion) (isHead : Bool) (alignments : List Alignment) (level : Nat)
    (s : RenderState) (cells : List Node) :
    rowTexts c isHead alignments level s cells =
      (rowContents c isHead alignments level s cells).map fun cell => cell.visibleText.trim := by
  induction cells generalizing alignments s with
  | nil => rfl
  | cons cell cells ih =>
    rw [rowTexts, rowContents, List.map_cons, ih, cellText, cellContent]
    cases ((renderAll (gemtextRenderer c) level cell.children).run s).1 <;> rfl

/-- The texts of the rows are what is seen of their contents, trimmed. -/
theorem gridRows_eq (c : Conversion) (alignments : List Alignment) (level : Nat) (s : RenderState)
    (rows : List Node) :
    gridRows c alignments level s rows =
      (tableContents c alignments level s rows).map
        fun row => row.map fun cell => cell.visibleText.trim := by
  induction rows generalizing s with
  | nil => rfl
  | cons row rows ih => rw [gridRows, tableContents, List.map_cons, ih, rowTexts_eq]

/-- Each cell has a text. -/
theorem length_rowTexts (c : Conversion) (isHead : Bool) (alignments : List Alignment) (level : Nat)
    (s : RenderState) (cells : List Node) :
    (rowTexts c isHead alignments level s cells).length = cells.length := by
  induction cells generalizing alignments s with
  | nil => rfl
  | cons cell cells ih => rw [rowTexts, List.length_cons, ih, List.length_cons]

end Node

end Markdown

namespace Render

open Content Markdown Node

variable {c : Conversion} {s : RenderState}

/-- The texts of a row are those of its first cell and of the others. -/
theorem cellTexts_cell (text : Text) (others : Content) :
    cellTexts (Content.ofText text ++ [.cellEnd] ++ others) = text :: cellTexts others := by
  rw [List.append_assoc, List.singleton_append, cellTexts, Content.cells_ofText_cons,
    List.map_cons, Content.plainText_ofText, cellTexts]

/-- Cells without tables are rendered without error.  Their alignments and their link lines are
gathered. -/
theorem exists_yields_renderCells (isHead : Bool) (alignments : List Alignment) (level : Nat)
    {cells : List Node} (hcells : cells.all tableFree) (s : RenderState) :
    ∃ content s',
      Yields (renderCells (gemtextRenderer c) isHead alignments level cells) s content s' ∧
      cellTexts content = rowTexts c isHead alignments level s cells ∧ s'.table = s.table ∧
      s'.alignments = s.alignments ++ columnAlignments alignments cells.length ∧
      s'.tableLinks =
        s.tableLinks ++ (rowContents c isHead alignments level s cells).flatMap linkLines := by
  induction cells generalizing alignments s with
  | nil =>
    exact ⟨[], s, yields_renderCells_nil.2 ⟨rfl, rfl⟩, rfl, rfl, (List.append_nil _).symm,
      (List.append_nil _).symm⟩
  | cons cell cells ih =>
    obtain ⟨kind, children⟩ := cell
    rw [List.all_cons, Bool.and_eq_true] at hcells
    have hchildren := (everywhere_mk.1 hcells.1).2
    rw [everywhereAll_eq_all] at hchildren
    obtain ⟨inner, s₁, hinner, hsame⟩ := leavesTable_renderAll hchildren s
    have hone : ((renderCells (gemtextRenderer c) isHead alignments level
        [mk kind children]).run s).2 = (tableCell inner (alignments.headD .left) s₁).2 :=
      state_renderCells_one hinner
    obtain ⟨others, s', hothers, htexts, htable, halignments, hlinks⟩ :=
      ih alignments.tail hcells.2 (tableCell inner (alignments.headD .left) s₁).2
    have hcontent : cellContent c level s (mk kind children) = inner := by
      rw [cellContent, show (mk kind children).children = children from rfl, hinner]
    have htext : cellText c level s (mk kind children) = inner.visibleText.trim := by
      rw [cellText, show (mk kind children).children = children from rfl, hinner]
    refine ⟨_, s', yields_renderCells_cons.2 ⟨inner, s₁, hinner, _, _, rfl, others, hothers, rfl⟩,
      ?_, htable.trans hsame.table, ?_, ?_⟩
    · rw [rowTexts, htext, hone, ← htexts]
      exact cellTexts_cell _ _
    · rw [halignments, List.length_cons, columnAlignments_succ, ← hsame.alignments]
      exact List.append_assoc _ [_] _
    · rw [hlinks, rowContents, hcontent, hone, List.flatMap_cons, ← hsame.tableLinks]
      exact List.append_assoc _ _ _

variable {glyphs : Glyphs} {aligned : List Alignment}

/-- The rows below a header are rendered without error.  They are gathered below those that the
table holds, and so are their link lines. -/
theorem exists_yields_renderRows (alignments : List Alignment) (level : Nat) {rows : List Node}
    (hrows : ∀ row ∈ rows, row.kind = .tableRow false ∧ row.children.all tableFree)
    {header : List Text} {before : List (List Text)}
    (htable : s.table = some (Grid.toTable c glyphs aligned ⟨header, before⟩))
    (hs : s.alignments = []) :
    ∃ s', Yields (renderRows (gemtextRenderer c) alignments level rows) s [] s' ∧
      s'.alignments = [] ∧
      s'.table = some (Grid.toTable c glyphs aligned
        ⟨header, before ++ gridRows c alignments level s rows⟩) ∧
      s'.tableLinks =
        s.tableLinks ++ (tableContents c alignments level s rows).flatten.flatMap linkLines := by
  induction rows generalizing s before with
  | nil =>
    refine ⟨s, yields_renderRows_nil.2 ⟨rfl, rfl⟩, hs, ?_, (List.append_nil _).symm⟩
    rwa [gridRows, List.append_nil]
  | cons row rows ih =>
    obtain ⟨⟨hkind, hcells⟩, hothers⟩ := List.forall_mem_cons.1 hrows
    obtain ⟨kind, children⟩ := row
    obtain rfl : kind = .tableRow false := hkind
    obtain ⟨cells, s₁, hyields, htexts, htable₁, -, hlinks₁⟩ :=
      exists_yields_renderCells (c := c) false alignments level hcells s
    have hone : ((renderRows (gemtextRenderer c) alignments level
        [mk (.tableRow false) children]).run s).2 = (tableRow cells s₁).2 :=
      state_renderRows_one hyields
    -- the table is longer by the row, or stays as it is
    have hlonger : (tableRow cells s₁).2.table =
        some (Grid.toTable c glyphs aligned ⟨header, before ++ [cellTexts cells]⟩) := by
      show s₁.table.map _ = _
      rw [htable₁, htable]
      exact congrArg some (Grid.addRow_toTable header before (cellTexts cells))
    obtain ⟨s', hyields', hempty, htable', hlinks'⟩ := ih hothers hlonger rfl
    refine ⟨s', yields_renderRows_cons.2 ⟨cells, s₁, hyields, _, _, rfl, [], hyields', rfl⟩, hempty,
      ?_, ?_⟩
    · rw [htable', htexts, gridRows, hone, List.append_assoc]
      rfl
    · rw [hlinks', tableContents, hone, List.flatten_cons, List.flatMap_append,
        ← List.append_assoc]
      congr 1

/-- The rows of a table with its header are rendered without error.  They are gathered in a new
table, and the link lines of their cells behind those that were gathered before. -/
theorem exists_yields_header_renderRows (alignments : List Alignment) (level : Nat) {head : Node}
    {rows : List Node} (hhead : head.kind = .tableRow true)
    (hcells : head.children.all tableFree)
    (hrows : ∀ row ∈ rows, row.kind = .tableRow false ∧ row.children.all tableFree)
    (hs : s.alignments = []) :
    ∃ glyphs s', Glyphs.named (tableStyle c) = .ok glyphs ∧
      Yields (renderRows (gemtextRenderer c) alignments level (head :: rows)) s [] s' ∧
      s'.alignments = [] ∧
      s'.table = some (Grid.toTable c glyphs (columnAlignments alignments head.children.length)
        (.ofRows (gridRows c alignments level s (head :: rows)))) ∧
      s'.tableLinks = s.tableLinks ++
        (tableContents c alignments level s (head :: rows)).flatten.flatMap linkLines := by
  obtain ⟨kind, children⟩ := head
  obtain rfl : kind = .tableRow true := hhead
  obtain ⟨cells, s₁, hyields, htexts, -, halignments, hlinks₁⟩ :=
    exists_yields_renderCells (c := c) true alignments level hcells s
  rw [hs, List.nil_append] at halignments
  -- there is an alignment for each text of the header, so it begins a table
  obtain ⟨t, ht⟩ : ∃ t, startTable c (cellTexts cells) s₁.alignments = .ok t :=
    exists_startTable (by rw [htexts, length_rowTexts, halignments, columnAlignments,
      List.length_map, List.length_range])
  obtain ⟨glyphs, hglyphs, rfl⟩ := startTable_eq_ok ht
  have hone : ((renderRows (gemtextRenderer c) alignments level
      [mk (.tableRow true) children]).run s).2 = (tableHead c cells s₁).2 :=
    state_renderRows_one hyields
  have hstarted : (tableHead c cells s₁).2.table =
      some (Grid.toTable c glyphs s₁.alignments ⟨cellTexts cells, []⟩) := by
    show (match startTable c (cellTexts cells) s₁.alignments with
      | .ok table => some table
      | .error _ => none) = _
    rw [ht]
    rfl
  obtain ⟨s', hyields', hempty, htable', hlinks'⟩ :=
    exists_yields_renderRows alignments level hrows hstarted rfl
  refine ⟨glyphs, s', hglyphs,
    yields_renderRows_cons.2 ⟨cells, s₁, hyields, _, _, rfl, [], hyields', rfl⟩, hempty, ?_, ?_⟩
  · rw [htable', htexts, gridRows, hone, halignments]
    rfl
  · rw [hlinks', tableContents, hone, List.flatten_cons, List.flatMap_append,
      ← List.append_assoc]
    congr 1

end Render

end Gemtext
