import Gemtext.Proofs.Table.Lines
import Gemtext.Proofs.Table.Operations
import Gemtext.Proofs.Table.Widths
import Gemtext.Text.CharWidth

/-!
# What is drawn of the cells

The lines of a cell show what the cell shows (`visible_cellLines`), and filling, padding and drawing
rules put in spaces and glyphs only.  So the lines of a row hold every other character that is not
blank just as often as the cells that have a column do (`count_drawRow`).  All cells have one, if
there are as many widths as columns (`count_draw`).  Fixed widths may be fewer: they outlive a
reset, and a table that is then given more columns is drawn without the last ones
(`count_draw_stale_widths`).
-/

namespace Gemtext

namespace Table

open Text

variable {t : Table} {widths : List Nat}

/-! ## The lines of the cells -/

/-- The lines of a cell show what the cell shows. -/
theorem visible_cellLines (measure : Measure) (width : Nat) (cell : Text) :
    (cellLines measure width cell).flatMap visible = visible cell := by
  -- a blank line becomes an empty one, and wrapping keeps what is visible
  have hpiece (piece : Text) :
      (if piece.allBlank then [[]] else wrap measure width piece).flatMap visible =
        visible piece := by
    split
    · rename_i hblank
      exact (visible_of_isBlank (List.all_eq_true.1 hblank)).symm
    · exact visible_wrap measure width piece
  calc (cellLines measure width cell).flatMap visible
      = (splitOn '\n' cell).flatMap visible := by
        rw [cellLines, List.flatMap_assoc]
        exact List.flatMap_congr fun piece _ => hpiece piece
    _ = visible cell := by rw [← visible_joinWith_newline, joinWith_splitOn]

/-- Padding puts in nothing but empty lines. -/
theorem flatten_padLines (alignment : VerticalAlignment) (height : Nat) (lines : List Text) :
    (padLines alignment height lines).flatten = lines.flatten := by
  simp [padLines]

/-- Padding adds empty lines only. -/
theorem map_flatten_padCells (height : Nat) (alignments : List VerticalAlignment)
    (cells : List (List Text)) :
    (padCells height alignments cells).map List.flatten = cells.map List.flatten := by
  induction cells generalizing alignments with
  | nil => rw [padCells_nil]
  | cons lines cells ih =>
    rw [padCells_cons, List.map_cons, List.map_cons, ih, flatten_padLines]

/-! ## Counting a character -/

section

variable {c : Char} (hc : isBlank c = false)
include hc

theorem ne_space : c ≠ ' ' := by
  rintro rfl
  exact absurd hc (by decide)

theorem count_spaces (count : Nat) : (spaces count).count c = 0 :=
  List.count_eq_zero.2 fun h => ne_space hc (mem_spaces h)

/-- A cell is cut into lines without losing a visible character. -/
theorem count_flatten_cellLines (measure : Measure) (width : Nat) (cell : Text) :
    (cellLines measure width cell).flatten.count c = cell.count c := by
  rw [← count_visible hc, ← flatMap_visible, visible_cellLines, count_visible hc]

/-- A row has no lines of the cells that stand behind the last column. -/
theorem map_count_rowLines (measure : Measure) (row : List Text) (widths : List Nat)
    (alignments : List VerticalAlignment) :
    (rowLines measure row widths alignments).map (fun lines => lines.flatten.count c) =
      (row.take widths.length).map (List.count c) := by
  -- the cells that have no width are left out
  have hcells : (List.zipWith (fun cell width => cellLines measure width cell) row widths).map
      (fun lines => lines.flatten.count c) = (row.take widths.length).map (List.count c) := by
    induction row generalizing widths with
    | nil => simp
    | cons cell row ih =>
      cases widths with
      | nil => rfl
      | cons width widths => simp [count_flatten_cellLines hc, ih]
  calc (rowLines measure row widths alignments).map (fun lines => lines.flatten.count c)
      = ((rowLines measure row widths alignments).map List.flatten).map (List.count c) :=
        (List.map_map ..).symm
    _ = ((List.zipWith (fun cell width => cellLines measure width cell) row widths).map
          List.flatten).map (List.count c) := by rw [rowLines, map_flatten_padCells]
    _ = (row.take widths.length).map (List.count c) := by
      rw [List.map_map]
      exact hcells

/-- Filling puts in nothing but spaces. -/
theorem count_fillLine (measure : Measure) (alignment : Alignment) (width : Nat) (line : Text) :
    (fillLine measure alignment width line).count c = line.count c := by
  unfold fillLine
  cases alignment <;> simp [count_spaces hc]

/-- The lines that have a width are filled without losing a character. -/
theorem count_flatten_fillLines (measure : Measure) (alignments : List Alignment)
    {lines : List Text} (h : lines.length ≤ widths.length) :
    (fillLines measure alignments widths lines).flatten.count c = lines.flatten.count c := by
  induction lines generalizing alignments widths with
  | nil => simp
  | cons line lines ih =>
    cases widths with
    | nil => simp at h
    | cons width widths =>
      rw [fillLines_cons, List.flatten_cons, List.flatten_cons, List.count_append,
        List.count_append, count_fillLine hc, ih _ (by simpa using h)]

end

/-- Lines of equally high cells are counted row by row or cell by cell. -/
theorem sum_count_getD (c : Char) {height : Nat} {cells : List (List Text)}
    (h : ∀ lines ∈ cells, lines.length = height) :
    ((List.range height).map fun i => (cells.map (·.getD i [])).flatten.count c).sum =
      (cells.map fun lines => lines.flatten.count c).sum := by
  induction cells with
  | nil => simp
  | cons lines cells ih =>
    obtain ⟨rfl, hcells⟩ := List.forall_mem_cons.1 h
    -- a column of lines is counted from top to bottom
    have hlines : ((List.range lines.length).map fun i => (lines.getD i []).count c).sum =
        lines.flatten.count c := by
      rw [List.count_flatten]
      conv => rhs; rw [← List.map_getD_range lines []]
      rw [List.map_map]
      rfl
    simp only [List.map_cons, List.flatten_cons, List.count_append, List.sum_map_add, hlines,
      ih hcells, List.sum_cons]

/-! ## Rows -/

section

variable {c : Char} (hc : isBlank c = false) (hglyphs : c ∉ t.glyphs.toList)
include hc hglyphs

/-- The border is made of glyphs and spaces. -/
theorem count_frame_vertical (line : Text) :
    (t.frame t.glyphs.vertical ' ' t.glyphs.vertical line).count c = line.count c := by
  have hvertical := ne_of_mem_glyphs hglyphs (vertical_mem_toList t.glyphs)
  unfold frame
  split
  · simp [hvertical.symm, (ne_space hc).symm, List.count_replicate]
  · rfl

/-- A line of a row holds what it shows, between glyphs and spaces. -/
theorem count_drawRowLine (alignments : List Alignment) {shown : List Text}
    (h : shown.length ≤ widths.length) :
    (t.drawRowLine widths alignments shown).count c = shown.flatten.count c := by
  rw [drawRowLine, count_frame_vertical hc hglyphs,
    count_joinWith (not_mem_separator hglyphs (ne_space hc)), count_flatten_fillLines hc _ _ h]

/-- The lines of a row hold a visible character as often as the cells of the row that have a
column. -/
theorem count_drawRow (widths : List Nat) (alignments : List Alignment)
    (verticalAlignments : List VerticalAlignment) (row : List Text) :
    (t.drawRow widths alignments verticalAlignments row).flatten.count c =
      (row.take widths.length).flatten.count c := by
  have hheight : ∀ lines ∈ rowLines t.measure row widths verticalAlignments,
      lines.length = rowHeight t.measure row widths := fun _ => length_of_mem_rowLines
  have hwithin : (rowLines t.measure row widths verticalAlignments).length ≤ widths.length := by
    rw [length_rowLines]
    exact Nat.min_le_right _ _
  -- the lines are counted across, and the cells downwards
  rw [List.count_flatten, List.count_flatten, ← map_count_rowLines hc t.measure row widths
    verticalAlignments, drawRow_eq_map, List.map_map]
  cases hrow : rowLines t.measure row widths verticalAlignments with
  | nil => rfl
  | cons lines cells =>
    rw [hrow] at hheight hwithin
    rw [List.headD_cons, hheight lines List.mem_cons_self, ← sum_count_getD c hheight]
    refine congrArg List.sum (List.map_congr_left fun i _ => ?_)
    exact count_drawRowLine hc hglyphs alignments (by rwa [List.length_map])

/-! ## The whole table -/

omit hc in
/-- A rule is made of glyphs. -/
theorem count_rule (widths : List Nat) {rule : Rule} (hrule : rule.Of t.glyphs) (present : Bool) :
    (if present then some (t.drawRule widths rule) else none).toList.flatten.count c = 0 := by
  have hnone := List.count_eq_zero.2 (not_mem_drawRule hglyphs widths hrule)
  split <;> simp [hnone]

omit hc hglyphs in
/-- Rules between the blocks add nothing that counts. -/
theorem count_joinBlocks {rule? : Option Text} (hrule : rule?.toList.flatten.count c = 0)
    (blocks : List (List Text)) :
    (joinBlocks rule? blocks).flatten.count c =
      (blocks.map fun block => block.flatten.count c).sum := by
  fun_induction joinBlocks rule? blocks with
  | case1 => rfl
  | case2 block => simp
  | case3 block blocks _ ih =>
    rw [List.flatten_append, List.flatten_append, List.count_append, List.count_append, hrule, ih]
    rfl

/-- The drawn lines hold a visible character as often as the cells that have a column. -/
theorem count_drawLines (widths : List Nat) :
    (t.drawLines widths).flatten.count c =
      ((t.header :: t.rows).map fun row => (row.take widths.length).flatten.count c).sum := by
  have hrule {rule : Rule} (hrule : rule.Of t.glyphs) (present : Bool) :=
    count_rule hglyphs widths hrule present
  -- a header without cells is left out, and holds nothing
  have hheader (lines : List Text)
      (hlines : lines.flatten.count c = (t.header.take widths.length).flatten.count c) :
      (if t.header.isEmpty then []
        else lines ++ (if t.decorations.headerRule then
          some (t.drawRule widths (headerRule t.glyphs)) else none).toList).flatten.count c =
        (t.header.take widths.length).flatten.count c := by
    split
    · rename_i hempty
      rw [List.isEmpty_iff.1 hempty, List.take_nil]
    · rw [List.flatten_append, List.count_append, hrule (headerRule_of t.glyphs), hlines,
        Nat.add_zero]
  have hrows (alignments : List Alignment) (verticalAlignments : List VerticalAlignment) :
      (t.rows.map (t.drawRow widths alignments verticalAlignments)).map
          (fun block => block.flatten.count c) =
        t.rows.map fun row => (row.take widths.length).flatten.count c := by
    rw [List.map_map]
    exact List.map_congr_left fun row _ => count_drawRow hc hglyphs widths _ _ row
  simp only [drawLines, List.flatten_append, List.count_append]
  rw [hrule (topRule_of t.glyphs), hheader _ (count_drawRow hc hglyphs widths _ _ t.header),
    count_joinBlocks (hrule (rowRule_of t.glyphs) _), hrows, hrule (bottomRule_of t.glyphs)]
  simp

/-- The drawn text holds a visible character as often as the cells that have a column. -/
theorem count_draw {drawn : Text} (hdraw : t.draw = .ok drawn)
    (hwidths : t.columnWidths = .ok widths) :
    drawn.count c =
      ((t.header :: t.rows).map fun row => (row.take widths.length).flatten.count c).sum := by
  -- the newlines between the lines are not visible
  have hnewline : c ∉ ['\n'] := by
    rw [List.mem_singleton]
    rintro rfl
    exact absurd hc (by decide)
  rw [draw_eq_ok] at hdraw
  split at hdraw
  · rename_i hempty
    rw [hdraw, hempty.1, hempty.2]
    simp
  · obtain ⟨others, hothers, rfl⟩ := hdraw
    obtain rfl := Except.ok.inj (hothers.symm.trans hwidths)
    rw [count_joinWith hnewline, count_drawLines hc hglyphs]

end

/-- Drawing loses and repeats nothing.  Whatever has been done to a table, in whatever order: if
there are no fewer fixed widths than columns, where there are some, then the drawn text holds each
character, blanks and glyphs aside, as often as the header and the rows do. -/
theorem count_draw_eq_count_cells {measure : Measure} {ops : List Operation}
    (hmade : (Table.empty measure).after ops = t)
    (hfixed : ∀ fixed, t.fixedWidths = some fixed → t.columnCount.getD 0 ≤ fixed.length)
    {drawn : Text} (hdraw : t.draw = .ok drawn) {c : Char} (hc : isBlank c = false)
    (hglyphs : c ∉ t.glyphs.toList) :
    drawn.count c = (t.header ++ t.rows.flatten).flatten.count c := by
  have ht : t.Formed measure := hmade ▸ (Formed.empty measure).after ops
  have hcells : (t.header ++ t.rows.flatten).flatten.count c =
      ((t.header :: t.rows).map fun row => row.flatten.count c).sum := by
    rw [← List.flatten_cons, List.count_flatten, List.map_flatten, List.sum_flatten, List.map_map]
    exact congrArg List.sum (List.map_congr_left fun row _ => (List.count_flatten ..).symm)
  have hdrawn := draw_eq_ok.1 hdraw
  split at hdrawn
  · rename_i hempty
    rw [hdrawn, hempty.1, hempty.2]
    rfl
  · obtain ⟨widths, hwidths, -⟩ := hdrawn
    have hcolumns : t.columnCount.getD 0 ≤ widths.length := by
      cases hsome : t.fixedWidths with
      | some fixed => exact columnWidths_of_fixedWidths hsome hwidths ▸ hfixed fixed hsome
      | none => exact Nat.le_of_eq (allotted_of_columnWidths hsome hwidths).length.symm
    rw [count_draw hc hglyphs hdraw hwidths, hcells]
    refine congrArg List.sum (List.map_congr_left fun row hrow => ?_)
    -- no row has more cells than the table has columns
    have hlength : row.length ≤ widths.length := by
      rcases ht.length_of_mem hrow with rfl | hrow
      · exact Nat.zero_le _
      · rw [hrow, Option.getD_some] at hcolumns
        exact hcolumns
    rw [List.take_of_length_le hlength]

/-- A header of one cell is refused, the widths outlive the reset, and a row of two cells is drawn
in the first two of the three columns: with all its letters, some of them in broken words. -/
theorem count_draw_eq_count_cells_wrapped :
    let t := (Table.empty charWidth).after [.setWidths [2, 4, 9], .setHeader ["x".toList], .reset,
      .addRow ["banana".toList, "b\tc a".toList]]
    let drawn := ("+----+------+-----------+\n" ++ "| ba | b    |\n" ++ "| na | c a  |\n" ++
      "| na |      |\n" ++ "+----+------+-----------+").toList
    t.draw = .ok drawn ∧ drawn.count 'a' = 4 ∧
      drawn.count 'a' = (t.header ++ t.rows.flatten).flatten.count 'a' := by
  intro t drawn
  -- a third width is left over, which no cell needs
  have hfixed : ∀ fixed, t.fixedWidths = some fixed → t.columnCount.getD 0 ≤ fixed.length := by
    intro fixed hfixed
    obtain rfl : [2, 4, 9] = fixed := Option.some.inj hfixed
    decide
  have hdraw : t.draw = .ok drawn := by decide +kernel
  exact ⟨hdraw, by decide, count_draw_eq_count_cells rfl hfixed hdraw (by decide) (by decide)⟩

/-- The width of the one column before a reset is that of the first column afterwards, and the
second cell of the header is not drawn. -/
theorem count_draw_stale_widths :
    let t := (Table.empty charWidth).after [.setWidths [3], .reset, .setHeader [['a'], ['b']]]
    let drawn := ("+-----+\n" ++ "|  a  |\n" ++ "+=====+\n" ++ "+-----+").toList
    t.types = none ∧ t.draw = .ok drawn ∧ isBlank 'b' = false ∧ 'b' ∉ t.glyphs.toList ∧
      drawn.count 'b' = 0 ∧ (t.header ++ t.rows.flatten).flatten.count 'b' = 1 := by
  intro t drawn
  exact ⟨rfl, by decide +kernel, by decide, by decide, by decide, by decide⟩

end Table

end Gemtext
