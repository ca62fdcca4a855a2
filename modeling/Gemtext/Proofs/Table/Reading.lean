import Gemtext.Proofs.Table.Rectangle
import Gemtext.Proofs.Table.RowLines
import Gemtext.Proofs.Table.Unwrapped

/-!
# Reading a drawn table

Where every character takes one place, the columns of a drawn table stand at the same offsets in all
lines of rows, whatever the cells hold.  `Table.readCells` cuts a line there and trims what it cuts
out.

If all cells are simple, and nothing limits the table, then each row is drawn in one line
(`Readable.drawRow_eq`) and is read back from it (`Readable.readCells_drawRowLine`).  Together with
the rules, these lines are the drawn table (`reads_back_drawn_table`).
-/

namespace Gemtext

namespace Table

open Text

/-! ## The reader -/

/-- Where columns of the given widths begin, if the first one begins at `start` and `gap` characters
stand between each two. -/
def startsFrom (gap : Nat) : Nat → List Nat → List Nat
  | _, [] => []
  | start, width :: widths => start :: startsFrom gap (start + width + gap) widths

/-- Where columns of the given widths begin in a drawn line: behind the border, if there is one, and
its padding, and then behind a column and the padding and the rule that follow it. -/
def columnStarts (t : Table) (widths : List Nat) : List Nat :=
  startsFrom (2 * t.padding + 1) (if t.decorations.border then t.padding + 1 else 0) widths

/-- The cells of a line that is cut at the columns. -/
def readCells (t : Table) (widths : List Nat) (line : Text) : List Text :=
  List.zipWith (fun start width => trim ((line.drop start).take width)) (t.columnStarts widths)
    widths

/-- The length of the longest cell of a column, be it in the header or in a row. -/
def longest (t : Table) (column : Nat) : Nat :=
  ((t.header :: t.rows).map fun row => (row.getD column []).length).foldl max 0

/-- A cell of one line, without tabs and without blanks at its ends. -/
structure Simple (cell : Text) : Prop where
  newline_not_mem : '\n' ∉ cell
  tab_not_mem : '\t' ∉ cell
  trim_eq : cell.trim = cell

instance (cell : Text) : Decidable (Simple cell) :=
  decidable_of_iff ('\n' ∉ cell ∧ '\t' ∉ cell ∧ cell.trim = cell)
    ⟨fun h => ⟨h.1, h.2.1, h.2.2⟩, fun h => ⟨h.newline_not_mem, h.tab_not_mem, h.trim_eq⟩⟩

variable {t : Table} {widths : List Nat} {row : List Text}

/-! ## Cutting a line -/

/-- Texts of the given widths are cut out of a line in which they stand one behind the other. -/
theorem zipWith_startsFrom {texts : List Text} {sep : Text}
    (h : List.Forall₂ (fun text width => text.length = width) texts widths)
    (before after : Text) :
    List.zipWith
      (fun start width => ((before ++ joinWith sep texts ++ after).drop start).take width)
      (startsFrom sep.length before.length widths) widths = texts := by
  induction h generalizing before with
  | nil => rfl
  | @cons text width texts widths htext htexts ih =>
    subst htext
    rw [startsFrom, List.zipWith_cons_cons]
    -- there is a separator behind every text but the last
    by_cases hlast : texts = []
    · subst hlast
      cases htexts
      simp [joinWith, startsFrom]
    · -- what stands before the other texts is the first one and the separator as well
      have hline : before ++ joinWith sep (text :: texts) ++ after =
          before ++ text ++ sep ++ joinWith sep texts ++ after := by
        rw [joinWith_cons hlast]
        simp only [List.append_assoc]
      have hstart : before.length + text.length + sep.length = (before ++ text ++ sep).length := by
        simp only [List.length_append]
      have hfirst : ((before ++ text ++ sep ++ joinWith sep texts ++ after).drop
          before.length).take text.length = text := by
        simp only [List.append_assoc, List.drop_left, List.take_left]
      rw [hline, hfirst, hstart, ih]

/-- Filling a line puts blanks at its ends only. -/
theorem trim_fillLine (measure : Measure) (alignment : Alignment) (width : Nat) (line : Text) :
    (fillLine measure alignment width line).trim = line.trim := by
  have hspaces (count : Nat) : ∀ c ∈ spaces count, isBlank c := fun c hc => by
    rw [mem_spaces hc]
    rfl
  unfold fillLine
  cases alignment with
  | left => exact trim_append_blank (hspaces _) _
  | right => exact trim_blank_append (hspaces _) _
  | center =>
    dsimp only
    rw [trim_append_blank (hspaces _), trim_blank_append (hspaces _)]

/-- Trimming undoes filling. -/
theorem map_trim_fillLines (measure : Measure) (alignments : List Alignment)
    {lines : List Text} (h : lines.length = widths.length) :
    (fillLines measure alignments widths lines).map trim = lines.map trim := by
  induction lines generalizing alignments widths with
  | nil => simp
  | cons line lines ih =>
    cases widths with
    | nil => simp at h
    | cons width widths =>
      rw [fillLines_cons, List.map_cons, List.map_cons, trim_fillLine, ih _ (by simpa using h)]

/-! ## Places and characters -/

/-- A text is as wide as it is long if each character takes one place. -/
theorem width_eq_length (s : Text) : Text.width (fun _ => 1) s = s.length := by
  induction s with
  | nil => rfl
  | cons c rest ih => rw [width_cons, ih, List.length_cons, Nat.add_comm]

/-- Each line is filled to the width of its column, if it fits. -/
theorem forall₂_fillLines (alignments : List Alignment)
    (h : List.Forall₂ (fun line width => line.length ≤ width) row widths) :
    List.Forall₂ (fun text width => text.length = width)
      (fillLines (fun _ => 1) alignments widths row) widths := by
  induction h generalizing alignments with
  | nil => simp
  | @cons line width row widths hline _ ih =>
    rw [fillLines_cons]
    refine .cons ?_ (ih _)
    rw [← width_eq_length, width_fillLine rfl, width_eq_length]
    omega

/-- A simple cell is as wide as it is long. -/
theorem Simple.cellWidth_eq {cell : Text} (h : Simple cell) :
    cellWidth (fun _ => 1) cell = cell.length := by
  have hcolumn : columnAfter (fun _ => 1) 0 cell = cell.length := by
    rw [columnAfter_eq rfl, expandTabs_of_not_mem h.tab_not_mem, width_eq_length, Nat.zero_add]
  rw [cellWidth, splitOn_of_not_mem h.newline_not_mem, List.map_singleton, hcolumn]
  exact Nat.zero_max _

/-- A simple cell is laid out as it is. -/
theorem Simple.sourceLines_eq {measure : Measure} {cell : Text} (h : Simple cell) :
    sourceLines measure cell = [cell] := by
  rw [sourceLines, splitOn_of_not_mem h.newline_not_mem, List.map_singleton,
    expandTabs_of_not_mem h.tab_not_mem, h.trim_eq]

/-! ## Lines of rows -/

/-- Cells that are as high as the row stay as they are. -/
theorem padCells_eq_self {height : Nat} {cells : List (List Text)}
    (h : ∀ lines ∈ cells, lines.length = height) (alignments : List VerticalAlignment) :
    padCells height alignments cells = cells := by
  induction cells generalizing alignments with
  | nil => simp
  | cons lines cells ih =>
    obtain ⟨hlines, hcells⟩ := List.forall_mem_cons.1 h
    obtain ⟨above, below, hsum, -, hpad⟩ :=
      exists_padLines_eq (alignments.headD .top) (Nat.le_of_eq hlines)
    obtain ⟨rfl, rfl⟩ : above = 0 ∧ below = 0 := by omega
    rw [padCells_cons, ih hcells, hpad]
    simp

/-- A table without a limit on its width, whose cells are all simple, and in which each character
takes one place. -/
structure Readable (t : Table) : Prop where
  formed : t.Formed fun _ => 1
  fixedWidths : t.fixedWidths = none
  maxWidth : t.maxWidth = 0
  simple : ∀ row ∈ t.header :: t.rows, ∀ cell ∈ row, Simple cell

namespace Readable

variable (ht : t.Readable)
include ht

/-- Without a limit, each column gets what it needs. -/
theorem columnWidths_eq : t.columnWidths = .ok t.contentWidths :=
  (columnWidths_eq_ok ht.fixedWidths).2 (.inl ⟨.inl ht.maxWidth, rfl⟩)

/-- A column is as wide as its longest cell is long. -/
theorem contentWidths_eq :
    t.contentWidths = (List.range (t.columnCount.getD 0)).map t.longest := by
  rw [Table.contentWidths_eq]
  refine List.map_congr_left fun column _ => ?_
  rw [columnNeed, longest]
  congr 1
  refine List.map_congr_left fun row hrow => ?_
  rw [List.getD_eq_getElem?_getD, List.getElem?_map, List.getD_eq_getElem?_getD,
    ht.formed.measure_eq]
  cases hcell : row[column]? with
  | none => rfl
  | some cell => exact (ht.simple row hrow cell (List.mem_of_getElem? hcell)).cellWidth_eq

/-- The cells of a row fit into the columns, of which there is one for each. -/
theorem forall₂_length_le (hrow : row ∈ t.header :: t.rows) (hsome : row ≠ []) :
    List.Forall₂ (fun cell width => cell.length ≤ width) row t.contentWidths := by
  have hcount : t.columnCount.getD 0 = row.length := by
    rw [(ht.formed.length_of_mem hrow).resolve_left hsome, Option.getD_some]
  refine List.forall₂_iff_get.2 ⟨by rw [length_contentWidths, hcount], fun i hi hwidth => ?_⟩
  have hneed := cellWidth_le_columnNeed hrow (List.getElem?_eq_getElem hi)
  rw [ht.formed.measure_eq, (ht.simple row hrow _ (List.getElem_mem hi)).cellWidth_eq] at hneed
  simpa [Table.contentWidths_eq] using hneed

/-- A row is drawn in one line. -/
theorem drawRow_eq (hrow : row ∈ t.header :: t.rows) (hsome : row ≠ [])
    (alignments : List Alignment) (verticalAlignments : List VerticalAlignment) :
    t.drawRow t.contentWidths alignments verticalAlignments row =
      [t.drawRowLine t.contentWidths alignments row] := by
  -- no cell is wrapped, since its column is as wide as it
  have hcells :
      List.zipWith (fun cell width => cellLines t.measure width cell) row t.contentWidths =
        row.map fun cell => [cell] := by
    rw [ht.formed.measure_eq, zipWith_cellLines_contentWidths ht.formed rfl hrow]
    exact List.map_congr_left fun cell hcell => (ht.simple row hrow cell hcell).sourceLines_eq
  have hone : ∀ lines ∈ row.map fun cell => [cell], lines.length = 1 := by
    intro lines hlines
    obtain ⟨cell, -, rfl⟩ := List.mem_map.1 hlines
    rfl
  -- every cell has one line
  have hheight : ((row.map fun cell => [cell]).map List.length).foldl max 0 = 1 := by
    have hheights : (row.map fun cell => [cell]).map List.length ≠ [] := by simpa using hsome
    have hmem := List.foldl_max_mem hheights
    obtain ⟨lines, hlines, heq⟩ := List.mem_map.1 hmem
    rw [← heq, hone lines hlines]
  have hlines : rowLines t.measure row t.contentWidths verticalAlignments =
      row.map fun cell => [cell] := by
    rw [rowLines, hcells, hheight, padCells_eq_self hone]
  obtain ⟨cell, cells, rfl⟩ := List.exists_cons_of_ne_nil hsome
  rw [drawRow_eq_map, hlines]
  simp [Function.comp_def]

/-- A row is read back from its line. -/
theorem readCells_drawRowLine (hrow : row ∈ t.header :: t.rows) (hsome : row ≠ [])
    (alignments : List Alignment) :
    t.readCells t.contentWidths (t.drawRowLine t.contentWidths alignments row) = row := by
  have hfits := ht.forall₂_length_le hrow hsome
  -- with the separators as wide as the gaps, the cells stand where they are looked for
  have hread (sep before after : Text) (hsep : sep.length = 2 * t.padding + 1)
      (hbefore : before.length = if t.decorations.border then t.padding + 1 else 0) :
      t.readCells t.contentWidths (before ++
        joinWith sep (fillLines t.measure alignments t.contentWidths row) ++ after) = row := by
    rw [readCells, columnStarts, ← hsep, ← hbefore, ← List.map_zipWith, ht.formed.measure_eq,
      zipWith_startsFrom (forall₂_fillLines alignments hfits),
      map_trim_fillLines _ _ hfits.length_eq]
    have hsame : row.map trim = row.map id :=
      List.map_congr_left fun cell hcell => (ht.simple row hrow cell hcell).trim_eq
    rw [hsame, List.map_id]
  have hsep (rule : Char) :
      (spaces t.padding ++ rule :: spaces t.padding).length = 2 * t.padding + 1 := by
    simp only [spaces, List.length_append, List.length_cons, List.length_replicate]
    omega
  rw [drawRowLine, frame]
  split
  · rename_i hborder
    rw [List.append_assoc _ _ [t.glyphs.vertical]]
    apply hread _ _ _ (hsep _)
    rw [if_pos hborder, List.length_cons, List.length_replicate]
  · rename_i hborder
    -- without a border, the first cell begins the line
    have hline := fun rule => hread _ [] [] (hsep rule) (by rw [if_neg hborder]; rfl)
    simp only [List.nil_append, List.append_nil] at hline
    exact hline _

end Readable

/-! ## All lines -/

/-- Blocks of one line each, with a rule between each two, or without one. -/
theorem joinBlocks_map_singleton (rule? : Option Text) (lines : List Text) :
    joinBlocks rule? (lines.map fun line => [line]) =
      match rule? with
      | none => lines
      | some rule => lines.intersperse rule := by
  induction lines with
  | nil => cases rule? <;> rfl
  | cons line lines ih =>
    -- a rule stands behind every line but the last
    cases lines with
    | nil => cases rule? <;> rfl
    | cons next more =>
      show [line] ++ rule?.toList ++ joinBlocks rule? ((next :: more).map fun line => [line]) = _
      rw [ih]
      cases rule? <;> rfl

/-- A rule across the columns, where it is asked for. -/
def optionalRule (t : Table) (widths : List Nat) (shown : Bool) (rule : Rule) : List Text :=
  if shown then [t.drawRule widths rule] else []

/-- A readable table is drawn row by row in one line each, with the rules around and between
them. -/
theorem Readable.exists_drawLines_eq (ht : t.Readable) (hrows : ∀ row ∈ t.rows, row ≠ []) :
    ∃ alignments headerAlignments,
      t.drawLines t.contentWidths =
        t.optionalRule t.contentWidths t.decorations.border (topRule t.glyphs) ++
          (if t.header = [] then []
            else t.drawRowLine t.contentWidths headerAlignments t.header ::
              t.optionalRule t.contentWidths t.decorations.headerRule (headerRule t.glyphs)) ++
          (if t.decorations.rowRules then
            (t.rows.map (t.drawRowLine t.contentWidths alignments)).intersperse
              (t.drawRule t.contentWidths (rowRule t.glyphs))
            else t.rows.map (t.drawRowLine t.contentWidths alignments)) ++
          t.optionalRule t.contentWidths t.decorations.border (bottomRule t.glyphs) := by
  refine ⟨t.alignments.getD (List.replicate t.contentWidths.length .left),
    t.headerAlignments.getD (List.replicate t.contentWidths.length .center), ?_⟩
  have hrule (shown : Bool) (rule : Rule) :
      (if shown then some (t.drawRule t.contentWidths rule) else none).toList =
        t.optionalRule t.contentWidths shown rule := by
    cases shown <;> rfl
  -- each row is drawn on one line
  have hdrawn (alignments : List Alignment) (verticalAlignments : List VerticalAlignment) :
      t.rows.map (t.drawRow t.contentWidths alignments verticalAlignments) =
        (t.rows.map (t.drawRowLine t.contentWidths alignments)).map fun line => [line] := by
    rw [List.map_map]
    exact List.map_congr_left fun row hrow =>
      ht.drawRow_eq (List.mem_cons_of_mem _ hrow) (hrows row hrow) _ _
  simp only [drawLines, hrule, hdrawn, joinBlocks_map_singleton, List.isEmpty_iff]
  congr 3
  · -- an empty header is left out
    split
    · rfl
    · rename_i hheader
      rw [ht.drawRow_eq List.mem_cons_self hheader]
      rfl
  · cases t.decorations.rowRules <;> rfl

/-- A drawn table can be read back.  Whatever has been done to a table in which each character takes
one place, in whatever order: if it has a header or rows, of at least one column, without fixed
widths and without a limit, if no glyph is a newline, and no cell holds a newline, a tab, or blanks
at its ends, then the drawn lines are, in this order, the rule above if there is a border, the line
of the header and the rule under it if there is one, the lines of the rows with the rules between
them if there are any, and the rule below.  A line of a row that is cut at the columns, which begin
where the lengths of the longest cells and the padding tell, gives the cells of the row. -/
theorem reads_back_drawn_table {ops : List Operation}
    (hmade : (Table.empty fun _ => 1).after ops = t) {columns : Nat}
    (hcolumns : t.columnCount = some columns) (hsome : 1 ≤ columns)
    (hcontent : t.header ≠ [] ∨ t.rows ≠ []) (hlimit : t.maxWidth = 0)
    (hfixed : t.fixedWidths = none) (hglyphs : '\n' ∉ t.glyphs.toList)
    (hcells : ∀ row ∈ t.header :: t.rows, ∀ cell ∈ row, Simple cell) :
    let widths := (List.range columns).map t.longest
    ∃ drawn headerLine rowLines,
      t.draw = .ok drawn ∧
        splitOn '\n' drawn =
          t.optionalRule widths t.decorations.border (topRule t.glyphs) ++
            (if t.header = [] then []
              else headerLine ::
                t.optionalRule widths t.decorations.headerRule (headerRule t.glyphs)) ++
            (if t.decorations.rowRules then
              rowLines.intersperse (t.drawRule widths (rowRule t.glyphs))
              else rowLines) ++
            t.optionalRule widths t.decorations.border (bottomRule t.glyphs) ∧
        (t.header ≠ [] → t.readCells widths headerLine = t.header) ∧
        rowLines.map (t.readCells widths) = t.rows := by
  intro widths
  have ht : t.Readable :=
    ⟨hmade ▸ (Formed.empty _).after ops, hfixed, hlimit, hcells⟩
  have hwidths : t.contentWidths = widths := by
    rw [ht.contentWidths_eq, hcolumns, Option.getD_some]
  have hrows : ∀ row ∈ t.rows, row ≠ [] := by
    rintro row hrow rfl
    have hnone := ht.formed.rows [] hrow
    rw [hcolumns, Option.some.injEq, List.length_nil] at hnone
    omega
  -- there is a header or a row, and it has a cell
  have hlines : t.drawLines t.contentWidths ≠ [] := by
    obtain ⟨row, hrow, hne⟩ : ∃ row ∈ t.header :: t.rows, row ≠ [] := by
      rcases hcontent with hheader | hrow
      · exact ⟨t.header, List.mem_cons_self, hheader⟩
      · obtain ⟨row, hmem⟩ := List.exists_mem_of_ne_nil t.rows hrow
        exact ⟨row, List.mem_cons_of_mem _ hmem, hrows row hmem⟩
    refine drawLines_ne_nil hrow hne (List.ne_nil_of_length_pos ?_)
    rw [length_contentWidths, hcolumns, Option.getD_some]
    exact hsome
  obtain ⟨alignments, headerAlignments, hdrawn⟩ := ht.exists_drawLines_eq hrows
  have hread {row : List Text} (hrow : row ∈ t.header :: t.rows) (hne : row ≠ []) :=
    ht.readCells_drawRowLine hrow hne
  rw [hwidths] at hdrawn hlines hread
  refine ⟨joinWith ['\n'] (t.drawLines widths), t.drawRowLine widths headerAlignments t.header,
    t.rows.map (t.drawRowLine widths alignments), ?_, ?_, fun hheader => ?_, ?_⟩
  · -- the table is drawn
    refine draw_eq_ok.2 ?_
    rw [if_neg (by tauto)]
    exact ⟨widths, hwidths ▸ ht.columnWidths_eq, rfl⟩
  · -- its lines are cut apart again, since no glyph is a newline
    rw [splitOn_joinWith hlines fun _ => newline_not_mem_drawLines hglyphs, hdrawn]
  · exact hread List.mem_cons_self hheader headerAlignments
  · rw [List.map_map]
    have hsame : t.rows.map (t.readCells widths ∘ t.drawRowLine widths alignments) =
        t.rows.map id := List.map_congr_left fun row hrow =>
      hread (List.mem_cons_of_mem _ hrow) (hrows row hrow) alignments
    rw [hsame, List.map_id]

/-- Three columns, of which the middle one is empty, between rules on all sides.  A glyph in a cell
is not taken for a rule, nor a blank for padding. -/
theorem reads_back_drawn_table_empty_column :
    let t := (Table.empty fun _ => 1).after
      [.setMaxWidth 0, .setPadding 2, .setAlignments [.right, .left, .center],
        .setHeader [['h'], [], ['k']], .addRow ["日本".toList, [], []],
        .addRow [['|'], [], "x y".toList]]
    let drawn := ("+------+----+-------+\n" ++ "|  h   |    |   k   |\n" ++
      "+======+====+=======+\n" ++ "|  日本  |    |       |\n" ++ "+------+----+-------+\n" ++
      "|   |  |    |  x y  |\n" ++ "+------+----+-------+").toList
    let rule (of : Glyphs → Rule) := t.drawRule [2, 0, 3] (of t.glyphs)
    t.draw = .ok drawn ∧ ∃ (headerLine : Text) (rowLines : List Text),
      splitOn '\n' drawn =
        [rule topRule, headerLine, rule headerRule] ++ rowLines.intersperse (rule rowRule) ++
          [rule bottomRule] ∧
      t.readCells [2, 0, 3] headerLine = [['h'], [], ['k']] ∧
      rowLines.map (t.readCells [2, 0, 3]) =
        [["日本".toList, [], []], [['|'], [], "x y".toList]] := by
  intro t drawn rule
  have hdraw : t.draw = .ok drawn := by decide +kernel
  have hwidths : (List.range 3).map t.longest = [2, 0, 3] := by decide
  have hcells : ∀ row ∈ t.header :: t.rows, ∀ cell ∈ row, Simple cell := by decide +kernel
  have hcolumns : t.columnCount = some 3 := rfl
  obtain ⟨other, headerLine, rowLines, hother, hlines, hheader, hrows⟩ :=
    reads_back_drawn_table (t := t) rfl hcolumns (by decide) (.inl (List.cons_ne_nil _ _)) rfl rfl
      (by decide) hcells
  obtain rfl : drawn = other := Except.ok.inj (hdraw.symm.trans hother)
  rw [hwidths] at hlines hheader hrows
  exact ⟨hdraw, headerLine, rowLines, hlines, hheader (List.cons_ne_nil _ _), hrows⟩

end Table

end Gemtext
