import Gemtext.Proofs.Table.Lines
import Gemtext.Proofs.Table.Operations
import Gemtext.Proofs.Table.Widths
import Gemtext.Proofs.Text.GreedyLines
import Gemtext.Text.CharWidth

/-!
# Tables that wrap nothing

A column is measured by the tab stops of its cells, and its cells are laid out with spaces in place
of tabs.  Where a space takes one place, both lead to the same columns, so each line of a cell fits
into a column that has what it needs, and is laid out as one line (`cellLines_of_width_le`).  So a
table without a limit, or with one that leaves its columns all they need, has as many lines for a
row as the cell with the most lines (`layout_of_unlimited`).
-/

namespace Gemtext

namespace Table

open Text

variable {measure : Measure} {t : Table}

/-- The lines of a cell one by one, with spaces in place of tabs, and trimmed. -/
def sourceLines (measure : Measure) (cell : Text) : List Text :=
  (splitOn '\n' cell).map fun line => (expandTabs measure 0 line).trim

/-- Spaces in place of tabs leave a blank line blank. -/
theorem trim_expandTabs_of_allBlank {line : Text} (h : line.allBlank) :
    (expandTabs measure 0 line).trim = [] := by
  have hvisible : visible (expandTabs measure 0 line) = [] := by
    rw [visible_expandTabs, visible_of_isBlank (List.all_eq_true.1 h)]
  have hblank : ∀ c ∈ expandTabs measure 0 line, isBlank c := fun c hc => by
    simpa using List.filter_eq_nil_iff.1 hvisible c hc
  exact trim_append_blank hblank []

/-- A cell whose lines fit into its column is laid out line by line. -/
theorem cellLines_of_width_le {width : Nat} {cell : Text}
    (h : ∀ line ∈ splitOn '\n' cell, Text.width measure (expandTabs measure 0 line) ≤ width) :
    cellLines measure width cell = sourceLines measure cell := by
  -- a line that fits is wrapped to itself
  have hline : ∀ line ∈ splitOn '\n' cell,
      (if line.allBlank then [[]] else wrap measure width line) =
        [(expandTabs measure 0 line).trim] := by
    intro line hline
    split
    · rename_i hblank
      rw [trim_expandTabs_of_allBlank hblank]
    · rename_i hshown
      exact wrap_of_width_le (by simpa using hshown) (h line hline)
  calc cellLines measure width cell
      = (splitOn '\n' cell).flatMap fun line => [(expandTabs measure 0 line).trim] :=
        List.flatMap_congr hline
    _ = sourceLines measure cell := List.flatMap_pure_eq_map _ _

/-- Columns that have all they need hold the lines of the cells one by one. -/
theorem zipWith_cellLines_contentWidths (ht : t.Formed measure) (hspace : measure ' ' = 1)
    {row : List Text} (hrow : row ∈ t.header :: t.rows) :
    List.zipWith (fun cell width => cellLines measure width cell) row t.contentWidths =
      row.map (sourceLines measure) := by
  obtain rfl := ht.measure_eq
  rcases ht.length_of_mem hrow with rfl | hcount
  · rfl
  · have hlength : t.contentWidths.length = row.length := by
      rw [length_contentWidths, hcount, Option.getD_some]
    refine List.ext_getElem (by simp [hlength]) fun i hi₁ hi₂ => ?_
    have hi : i < row.length := by simpa using hi₂
    rw [List.getElem_zipWith, List.getElem_map]
    -- the column is as wide as its widest cell
    refine cellLines_of_width_le fun line hline => ?_
    simp only [contentWidths_eq, List.getElem_map, List.getElem_range]
    exact Nat.le_trans (width_expandTabs_le_cellWidth hspace hline)
      (cellWidth_le_columnNeed hrow (List.getElem?_eq_getElem hi))

/-- A table that has room for all its columns wraps nothing.  Whatever has been done to a table, in
whatever order: if it has no fixed widths, and its limit, if there is one, is no less than what the
columns need and what is drawn around them, then it is drawn in columns in which the lines of each
cell, at their newlines, are laid out one by one, with spaces in place of tabs and trimmed.  So a
row is drawn in as many lines as its cell with the most lines has, to which the others are padded.
-/
theorem layout_of_unlimited {ops : List Operation} (hmade : (Table.empty measure).after ops = t)
    (hspace : measure ' ' = 1) (hfixed : t.fixedWidths = none) {columns : Nat}
    (hcolumns : t.columnCount.getD 0 = columns)
    (hroom : t.maxWidth = 0 ∨
      ((List.range columns).map t.columnNeed).sum + t.decorationWidth columns ≤ t.maxWidth) :
    ∃ widths, t.columnWidths = .ok widths ∧ ∀ row ∈ t.header :: t.rows,
      let height := (row.map fun cell => (splitOn '\n' cell).length).foldl max 0
      List.zipWith (fun cell width => cellLines measure width cell) row widths =
          row.map (sourceLines measure) ∧
        ∀ (alignments : List Alignment) (verticalAlignments : List VerticalAlignment),
          rowLines measure row widths verticalAlignments =
              padCells height verticalAlignments (row.map (sourceLines measure)) ∧
            (t.drawRow widths alignments verticalAlignments row).length = height := by
  subst hcolumns
  have ht : t.Formed measure := hmade ▸ (Formed.empty measure).after ops
  rw [← contentWidths_eq] at hroom
  refine ⟨t.contentWidths, (columnWidths_eq_ok hfixed).2 (.inl ⟨hroom, rfl⟩), fun row hrow => ?_⟩
  intro height
  -- each column gets what it needs, so no line is wrapped
  have hlines := zipWith_cellLines_contentWidths ht hspace hrow
  -- the lines of a cell are those it was given with
  have hheight : ((row.map (sourceLines measure)).map List.length).foldl max 0 = height := by
    simp [height, sourceLines, Function.comp_def]
  refine ⟨hlines, fun alignments verticalAlignments => ⟨?_, ?_⟩⟩
  · rw [rowLines, hlines, hheight]
  · rw [length_drawRow, rowHeight, ht.measure_eq, hlines, hheight]

/-- Tabs, wide characters, a blank line and blanks at the ends of lines: the limit is just what the
two columns need, and the row takes the three lines of its first cell. -/
theorem layout_of_unlimited_tabs :
    let row := ["  a\tb\n \nc ".toList, "d\ne".toList]
    let t := (Table.empty charWidth).after
      [.setMaxWidth 18, .setHeader ["日本\tx ".toList, ['f']], .addRow row]
    t.columnWidths = .ok [10, 1] ∧
      List.zipWith (fun cell width => cellLines charWidth width cell) row [10, 1] =
        [["a     b".toList, [], ['c']], [['d'], ['e']]] ∧
      (t.drawRow [10, 1] [] [] row).length = 3 := by
  intro row t
  have hneeds : (List.range 2).map t.columnNeed = [10, 1] := by decide +kernel
  have hok : t.columnWidths = .ok [10, 1] := by decide +kernel
  have hrow : row ∈ t.header :: t.rows := List.mem_cons_of_mem _ List.mem_cons_self
  have hcolumns : t.columnCount.getD 0 = 2 := rfl
  obtain ⟨widths, hwidths, hrows⟩ := layout_of_unlimited (t := t) rfl (by decide) rfl hcolumns
    (.inr (by rw [hneeds]; decide))
  obtain rfl : [10, 1] = widths := Except.ok.inj (hok.symm.trans hwidths)
  obtain ⟨hlines, hheight⟩ := hrows row hrow
  exact ⟨hok, hlines.trans (by decide +kernel), (hheight [] []).2⟩

end Table

end Gemtext
