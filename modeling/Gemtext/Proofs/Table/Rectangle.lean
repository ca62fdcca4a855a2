import Gemtext.Proofs.Table.Lines
import Gemtext.Proofs.Table.Operations
import Gemtext.Proofs.Table.Widths
import Gemtext.Text.CharWidth

/-!
# Drawn tables are rectangles

Where the space and the glyphs take one place each, a rule is as wide as the columns and what is
drawn around them (`width_drawRule`).  A line of a row is that wide as well, but for the cells
whose line is wider than their column (`width_drawRowLine`).  Wrapping leaves no such line if
each character of a cell fits into its column, so then all drawn lines have one width, which is
within the limit (`width_eq_of_mem_splitOn_draw`).
-/

namespace Gemtext

namespace Table

open Text

variable {t : Table} {line : Text} {widths bounds : List Nat}

/-! ## Filled lines -/

/-- A line is filled to the width of its column, or it is wider. -/
theorem width_fillLine {measure : Measure} (hspace : measure ' ' = 1) (alignment : Alignment)
    (width : Nat) (line : Text) :
    Text.width measure (fillLine measure alignment width line) =
      max width (Text.width measure line) := by
  unfold fillLine
  cases alignment <;>
  · simp only [width_append, width_spaces hspace]
    omega

/-- A line fills its column, or hangs over. -/
theorem map_width_fillLines {measure : Measure} (hspace : measure ' ' = 1)
    (alignments : List Alignment) (widths : List Nat) (lines : List Text) :
    (fillLines measure alignments widths lines).map (Text.width measure) =
      List.zipWith max widths (lines.map (Text.width measure)) := by
  induction lines generalizing alignments widths with
  | nil => simp
  | cons line lines ih =>
    cases widths with
    | nil => simp
    | cons width widths => simp [fillLines_cons, width_fillLine hspace, ih]

/-! ## Cells in their columns -/

/-- The lines of a cell are within a bound that no character of the cell exceeds, if its column
is. -/
theorem width_le_of_mem_cellLines {measure : Measure} {width bound : Nat} {cell : Text}
    (hwidth : width ≤ bound)
    (hcell : ∀ piece ∈ splitOn '\n' cell, ∀ c ∈ expandTabs measure 0 piece, measure c ≤ bound)
    (h : line ∈ cellLines measure width cell) : Text.width measure line ≤ bound := by
  obtain ⟨piece, hpiece, h⟩ := List.mem_flatMap.1 h
  split at h
  · -- a blank line is empty
    rw [List.mem_singleton.1 h]
    exact Nat.zero_le bound
  · by_cases hbound : bound = 0
    · -- wrapping takes a column of no place for one of one place, but nothing takes a place here
      have hzero : ∀ n ∈ line.map measure, n = 0 := by
        intro n hn
        obtain ⟨c, hc, rfl⟩ := List.mem_map.1 hn
        have hc := hcell piece hpiece c (mem_expandTabs_of_mem_wrap h hc)
        omega
      rw [width_eq_sum, List.sum_eq_zero hzero]
      exact Nat.zero_le bound
    · exact width_le_of_mem_wrap (by omega) (fun c hc _ => hcell piece hpiece c hc) h

/-- No line of the cells of a row is wider than the bound for its column. -/
def RowWithin (measure : Measure) (widths bounds : List Nat) (row : List Text) : Prop :=
  List.Forall₂ (fun cell bound => ∀ line ∈ cellLines measure cell.2 cell.1,
    Text.width measure line ≤ bound) (row.zip widths) bounds

/-- Empty lines are not wider than the others. -/
theorem forall₂_padCells {measure : Measure} {height : Nat} {cells : List (List Text)}
    (alignments : List VerticalAlignment)
    (h : List.Forall₂ (fun lines bound => ∀ line ∈ lines, Text.width measure line ≤ bound) cells
      bounds) :
    List.Forall₂ (fun lines bound => ∀ line ∈ lines, Text.width measure line ≤ bound)
      (padCells height alignments cells) bounds := by
  induction h generalizing alignments with
  | nil => simp
  | cons hlines _ ih =>
    rw [padCells_cons]
    refine .cons (fun line hline => ?_) (ih _)
    rcases mem_padLines hline with hline | rfl
    · exact hlines line hline
    · exact Nat.zero_le _

/-- The lines of a padded row are within the bounds. -/
theorem RowWithin.rowLines {measure : Measure} {row : List Text}
    (h : RowWithin measure widths bounds row) (alignments : List VerticalAlignment) :
    List.Forall₂ (fun lines bound => ∀ line ∈ lines, Text.width measure line ≤ bound)
      (rowLines measure row widths alignments) bounds := by
  have hcells : List.zipWith (fun cell width => cellLines measure width cell) row widths =
      (row.zip widths).map fun cell => cellLines measure cell.2 cell.1 :=
    (List.map_uncurry_zip_eq_zipWith ..).symm
  rw [Table.rowLines]
  refine forall₂_padCells alignments ?_
  rw [hcells]
  exact List.forall₂_map_left_iff.2 h

/-! ## Rules and lines of rows -/

/-- The space and the glyphs of the table take one place each. -/
structure SinglePlaced (t : Table) : Prop where
  space : t.measure ' ' = 1
  glyph : ∀ glyph ∈ t.glyphs.toList, t.measure glyph = 1

/-- The border takes its two ends and their padding. -/
theorem width_frame {first padding last : Char} (hfirst : t.measure first = 1)
    (hpadding : t.measure padding = 1) (hlast : t.measure last = 1) (line : Text) :
    Text.width t.measure (t.frame first padding last line) =
      Text.width t.measure line + if t.decorations.border then 2 * t.padding + 2 else 0 := by
  unfold frame
  split
  · simp only [List.cons_append, width_cons, width_append, width_replicate, width_nil, hfirst,
      hpadding, hlast]
    omega
  · rfl

/-- A rule is as wide as the columns and what is drawn around them. -/
theorem width_drawRule (ht : t.SinglePlaced) (widths : List Nat) {rule : Rule}
    (hrule : rule.Of t.glyphs) :
    Text.width t.measure (t.drawRule widths rule) =
      widths.sum + t.decorationWidth widths.length := by
  have hline := ht.glyph _ hrule.line
  have hcross : t.measure (if t.decorations.columnRules then rule.cross else rule.line) = 1 := by
    split
    · exact ht.glyph _ hrule.cross
    · exact hline
  -- a rule has as many glyphs above a column as it has places
  have hcolumns : (widths.map fun width => List.replicate width rule.line).map
      (Text.width t.measure) = widths := by
    rw [List.map_map]
    conv => rhs; rw [← List.map_id widths]
    refine List.map_congr_left fun width _ => ?_
    simp [width_replicate, hline]
  have hseparator : t.padding + (1 + t.padding) = 2 * t.padding + 1 := by omega
  rw [drawRule, width_frame (ht.glyph _ hrule.left) hline (ht.glyph _ hrule.right), width_joinWith,
    hcolumns, decorationWidth, List.length_map, width_append, width_cons, width_replicate, hcross,
    hline, Nat.mul_one, hseparator, Nat.add_assoc]

/-- A line of a row is as wide as the columns, or a line of a cell where that is wider, and what is
drawn around them. -/
theorem width_drawRowLine (ht : t.SinglePlaced) (alignments : List Alignment) {shown : List Text}
    (hshown : shown.length = widths.length) :
    Text.width t.measure (t.drawRowLine widths alignments shown) =
      (List.zipWith max widths (shown.map (Text.width t.measure))).sum +
        t.decorationWidth widths.length := by
  have hvertical := ht.glyph _ (vertical_mem_toList t.glyphs)
  have hrule : t.measure (if t.decorations.columnRules then t.glyphs.vertical else ' ') = 1 := by
    split
    · exact hvertical
    · exact ht.space
  have hfilled := map_width_fillLines ht.space alignments widths shown
  -- every column shows a line
  have hlength : (Table.fillLines t.measure alignments widths shown).length = widths.length := by
    have hlengths := congrArg List.length hfilled
    rw [List.length_map] at hlengths
    simpa [hshown] using hlengths
  have hseparator : t.padding + (1 + t.padding) = 2 * t.padding + 1 := by omega
  rw [drawRowLine, width_frame hvertical ht.space hvertical, width_joinWith, hlength, hfilled,
    decorationWidth, width_append, width_cons, width_spaces ht.space, hrule, hseparator,
    Nat.add_assoc]

/-! ## All lines -/

/-- Columns that hang over make the line no narrower. -/
theorem sum_le_sum_zipWith_max {as bs : List Nat} (h : as.length = bs.length) :
    as.sum ≤ (List.zipWith max as bs).sum := by
  induction as generalizing bs with
  | nil => simp
  | cons a as ih =>
    cases bs with
    | nil => simp at h
    | cons b bs =>
      have htail : as.sum ≤ (List.zipWith max as bs).sum := ih (by simpa using h)
      simp only [List.zipWith_cons_cons, List.sum_cons]
      omega

/-- Nor does it grow beyond bounds for both. -/
theorem sum_zipWith_max_le {as bs cs : List Nat} (has : List.Forall₂ (· ≤ ·) as cs)
    (hbs : List.Forall₂ (· ≤ ·) bs cs) : (List.zipWith max as bs).sum ≤ cs.sum := by
  induction has generalizing bs with
  | nil => simp
  | cons ha _ ih =>
    cases hbs with
    | cons hb hbs =>
      have htail := ih hbs
      simp only [List.zipWith_cons_cons, List.sum_cons]
      omega

/-- No line of a cell is wider than the bound for its column, and no column is. -/
structure Within (t : Table) (widths bounds : List Nat) : Prop where
  widths_le : List.Forall₂ (· ≤ ·) widths bounds
  rows : ∀ row ∈ t.header :: t.rows,
    row = [] ∨ row.length = widths.length ∧ RowWithin t.measure widths bounds row

/-- A drawn line is at least as wide as the columns and what is drawn around them, and exceeds it by
no more than the bounds for the columns do. -/
theorem Drawn.width_le (ht : t.SinglePlaced) (hwithin : t.Within widths bounds)
    (h : t.Drawn widths line) :
    widths.sum + t.decorationWidth widths.length ≤ Text.width t.measure line ∧
      Text.width t.measure line ≤ bounds.sum + t.decorationWidth widths.length := by
  cases h with
  | rule hrule =>
    have hsum : widths.sum ≤ bounds.sum := List.Forall₂.sum_le_sum hwithin.widths_le
    rw [width_drawRule ht widths hrule]
    omega
  | @row row alignments verticalAlignments _ hmem hline =>
    rcases hwithin.rows _ hmem with rfl | ⟨hlength, hrow⟩
    · -- there is no line in a row without cells
      simp [drawRow, rowLines] at hline
    · obtain ⟨i, rfl⟩ := exists_of_mem_drawRow hline
      have hcells : (rowLines t.measure row widths verticalAlignments).length = widths.length := by
        rw [length_rowLines, hlength, Nat.min_self]
      rw [width_drawRowLine ht _ (by rwa [List.length_map])]
      -- a column is never narrower than its width, nor wider than its bound
      refine ⟨Nat.add_le_add_right (sum_le_sum_zipWith_max ?_) _,
        Nat.add_le_add_right (sum_zipWith_max_le hwithin.widths_le ?_) _⟩
      · rw [List.length_map, List.length_map, hcells]
      · rw [List.map_map]
        refine List.forall₂_map_left_iff.2 ((hrow.rowLines _).imp fun lines bound hlines => ?_)
        show Text.width t.measure (lines.getD i []) ≤ bound
        rw [List.getD_eq_getElem?_getD]
        cases hget : lines[i]? with
        | none => exact Nat.zero_le bound
        | some shown => exact hlines shown (List.mem_of_getElem? hget)

/-! ## Characters in their columns -/

/-- A column without fixed widths has a width just if it needs one, and a fixed width is one place
at least. -/
theorem pos_of_columnWidths {measure : Measure} (ht : t.Formed measure)
    (hwidths : t.columnWidths = .ok widths) {row : List Text} (hrow : row ∈ t.header :: t.rows)
    {i : Nat} {cell : Text} (hcell : row[i]? = some cell) {width : Nat}
    (hwidth : widths[i]? = some width) (hneed : 0 < cellWidth t.measure cell) : 0 < width := by
  -- fixed widths are positive, and others are if the column needs a place
  cases hfixed : t.fixedWidths with
  | some fixed =>
    obtain rfl := columnWidths_of_fixedWidths hfixed hwidths
    exact ht.fixedWidths fixed hfixed width (List.mem_of_getElem? hwidth)
  | none =>
    have hallotted := allotted_of_columnWidths hfixed hwidths
    obtain ⟨hi, rfl⟩ := List.getElem?_eq_some_iff.1 hwidth
    have hcount : i < t.columnCount.getD 0 := hallotted.length ▸ hi
    have hshare := List.Forall₂.get hallotted.needs (by rwa [length_contentWidths]) hi
    have hcolumn := cellWidth_le_columnNeed hrow hcell
    simp only [List.get_eq_getElem, contentWidths_eq, List.getElem_map, List.getElem_range]
      at hshare
    exact hshare.2 (by omega)

/-- There are as many widths as columns. -/
theorem length_of_columnWidths
    (hfixed : ∀ fixed, t.fixedWidths = some fixed → fixed.length = t.columnCount.getD 0)
    (hwidths : t.columnWidths = .ok widths) : widths.length = t.columnCount.getD 0 := by
  cases hsome : t.fixedWidths with
  | some fixed =>
    rw [← columnWidths_of_fixedWidths hsome hwidths]
    exact hfixed fixed hsome
  | none => exact (allotted_of_columnWidths hsome hwidths).length

/-- No character of a cell is wider than the bound for its column, but for newlines and tabs, which
are not drawn. -/
def CharsWithin (measure : Measure) (bounds : List Nat) (row : List Text) : Prop :=
  ∀ cell ∈ row.zip bounds, ∀ c ∈ cell.1, c ≠ '\n' → c ≠ '\t' → measure c ≤ cell.2

instance (measure : Measure) (bounds : List Nat) (row : List Text) :
    Decidable (CharsWithin measure bounds row) :=
  decidable_of_iff ((row.zip bounds).all fun cell => cell.1.all fun c =>
    c = '\n' || (c = '\t' || measure c ≤ cell.2)) <| by
      simp only [CharsWithin, List.all_eq_true, Bool.or_eq_true, decide_eq_true_eq, ne_eq,
        or_iff_not_imp_left]

/-- If the characters of the cells are within the bounds for the columns, so are the lines of the
cells. -/
theorem within_of_charsWithin {measure : Measure} (ht : t.Formed measure)
    (hspace : t.measure ' ' = 1)
    (hfixed : ∀ fixed, t.fixedWidths = some fixed → fixed.length = t.columnCount.getD 0)
    (hwidths : t.columnWidths = .ok widths) (hbounds : List.Forall₂ (· ≤ ·) widths bounds)
    (hchars : ∀ row ∈ t.header :: t.rows, CharsWithin t.measure bounds row) :
    t.Within widths bounds := by
  refine ⟨hbounds, fun row hrow => ?_⟩
  refine (ht.length_of_mem hrow).imp_right fun hcount => ?_
  have hlength : row.length = widths.length := by
    rw [length_of_columnWidths hfixed hwidths, hcount, Option.getD_some]
  have hsame := hbounds.length_eq
  refine ⟨hlength, List.forall₂_iff_get.2 ⟨by simp [hlength, hsame], fun i hi hbound => ?_⟩⟩
  rw [List.length_zip] at hi
  simp only [List.get_eq_getElem, List.getElem_zip]
  intro line hline
  refine width_le_of_mem_cellLines (List.Forall₂.get hbounds (by omega) hbound)
    (fun piece hpiece c hc => ?_) hline
  have hcell : (row[i], bounds[i]) ∈ row.zip bounds :=
    List.mem_iff_getElem.2 ⟨i, by rw [List.length_zip]; omega, List.getElem_zip⟩
  -- a character of the cell is within the bound, unless it is a tab
  rcases mem_expandTabs hc with hmem | rfl
  · have hpiece := mem_and_ne_of_mem_splitOn hpiece hmem
    refine hchars row hrow _ hcell c hpiece.1 hpiece.2 ?_
    rintro rfl
    exact tab_not_mem_expandTabs 0 piece hc
  · -- a space for a tab: then the cell takes a place, so that its column has one
    have hneed := measure_le_cellWidth hspace hpiece hc
    rw [hspace] at hneed
    have hpos := pos_of_columnWidths ht hwidths hrow (List.getElem?_eq_getElem (by omega))
      (List.getElem?_eq_getElem (i := i) (by omega)) hneed
    have hle := List.Forall₂.get hbounds (i := i) (by omega) hbound
    simp only [List.get_eq_getElem] at hle
    omega

/-! ## Tables that have lines -/

/-- Even an empty cell has a line. -/
theorem cellLines_ne_nil (measure : Measure) (width : Nat) (cell : Text) :
    cellLines measure width cell ≠ [] := by
  obtain ⟨piece, pieces, hpieces⟩ := List.exists_cons_of_ne_nil (splitOn_ne_nil '\n' cell)
  rw [cellLines, hpieces, List.flatMap_cons]
  refine List.append_ne_nil_of_left_ne_nil ?_ _
  split
  · exact List.cons_ne_nil _ _
  · rename_i hshown
    exact wrap_ne_nil (by simpa using hshown)

theorem padLines_ne_nil (alignment : VerticalAlignment) (height : Nat) {lines : List Text}
    (h : lines ≠ []) : padLines alignment height lines ≠ [] := by
  simp [padLines, h]

/-- A row with a cell is drawn in one line at least. -/
theorem drawRow_ne_nil {alignments : List Alignment} {verticalAlignments : List VerticalAlignment}
    {row : List Text} (hrow : row ≠ []) (hwidths : widths ≠ []) :
    t.drawRow widths alignments verticalAlignments row ≠ [] := by
  obtain ⟨cell, cells, rfl⟩ := List.exists_cons_of_ne_nil hrow
  obtain ⟨width, others, rfl⟩ := List.exists_cons_of_ne_nil hwidths
  have hcell := cellLines_ne_nil t.measure width cell
  simp only [drawRow, ne_eq, List.map_eq_nil_iff, List.range_eq_nil, List.length_eq_zero_iff,
    rowLines, List.zipWith_cons_cons, padCells_cons, List.headD_cons]
  exact padLines_ne_nil _ _ hcell

/-- A block with a line leaves one. -/
theorem joinBlocks_ne_nil {rule? : Option Text} {block : List Text} {blocks : List (List Text)}
    (hmem : block ∈ blocks) (hblock : block ≠ []) : joinBlocks rule? blocks ≠ [] := by
  fun_induction joinBlocks rule? blocks with
  | case1 => cases hmem
  | case2 only => rwa [← List.mem_singleton.1 hmem]
  | case3 first blocks _ ih =>
    rcases List.mem_cons.1 hmem with rfl | hmem
    · simp [hblock]
    · simp [ih hmem]

/-- A table whose header or one of whose rows has a cell is drawn in one line at least. -/
theorem drawLines_ne_nil {row : List Text} (hmem : row ∈ t.header :: t.rows) (hrow : row ≠ [])
    (hwidths : widths ≠ []) : t.drawLines widths ≠ [] := by
  have hdrawn (alignments : List Alignment) (verticalAlignments : List VerticalAlignment) :
      t.drawRow widths alignments verticalAlignments row ≠ [] := drawRow_ne_nil hrow hwidths
  rcases List.mem_cons.1 hmem with rfl | hmem
  · simp [drawLines, List.isEmpty_iff, hrow, hdrawn]
  · simp only [drawLines, ne_eq, List.append_eq_nil_iff]
    rintro ⟨⟨-, hrows⟩, -⟩
    exact joinBlocks_ne_nil (List.mem_map_of_mem hmem) (hdrawn _ _) hrows

/-! ## The drawn text -/

/-- The drawn table is a rectangle.  Whatever has been done to a table, in whatever order: if the
fixed widths, where there are some, are as many as the columns, and no character of a cell is wider
than its column, then all drawn lines are as wide as the columns and what is drawn around them, and
that is within the limit, if the widths are not fixed. -/
theorem width_eq_of_mem_splitOn_draw {measure : Measure} {ops : List Operation}
    (hmade : (Table.empty measure).after ops = t) {columns : Nat}
    (hcolumns : t.columnCount = some columns) (hsome : 1 ≤ columns)
    (hfixed : ∀ fixed, t.fixedWidths = some fixed → fixed.length = columns)
    (hcontent : t.header ≠ [] ∨ t.rows ≠ []) (hplaces : t.SinglePlaced)
    (hglyphs : '\n' ∉ t.glyphs.toList) (hwidths : t.columnWidths = .ok widths)
    (hchars : ∀ row ∈ t.header :: t.rows, CharsWithin measure widths row) {drawn : Text}
    (hdraw : t.draw = .ok drawn) (hline : line ∈ splitOn '\n' drawn) :
    Text.width measure line =
        widths.sum + (2 * t.padding + 1) * (columns - 1) +
          (if t.decorations.border then 2 * t.padding + 2 else 0) ∧
      (t.fixedWidths = none → 0 < t.maxWidth → Text.width measure line ≤ t.maxWidth) := by
  have ht : t.Formed measure := hmade ▸ (Formed.empty measure).after ops
  have hcount : t.columnCount.getD 0 = columns := by rw [hcolumns, Option.getD_some]
  have hlength : widths.length = columns :=
    (length_of_columnWidths (fun fixed h => (hfixed fixed h).trans hcount.symm) hwidths).trans
      hcount
  have hwithin : t.Within widths widths :=
    within_of_charsWithin ht hplaces.space
      (fun fixed h => (hfixed fixed h).trans hcount.symm) hwidths
      (List.forall₂_same.2 fun width _ => Nat.le_refl width) (ht.measure_eq ▸ hchars)
  -- there is a row with a cell, so there are lines to draw
  obtain ⟨row, hmem, hrow⟩ : ∃ row ∈ t.header :: t.rows, row ≠ [] := by
    rcases hcontent with hheader | hrows
    · exact ⟨t.header, List.mem_cons_self, hheader⟩
    · obtain ⟨row, rows, hrows⟩ := List.exists_cons_of_ne_nil hrows
      have hmem : row ∈ t.rows := hrows ▸ List.mem_cons_self
      refine ⟨row, List.mem_cons_of_mem _ hmem, ?_⟩
      rintro rfl
      have hnone := ht.rows [] hmem
      rw [hcolumns, Option.some.injEq, List.length_nil] at hnone
      omega
  have hnonempty : t.drawLines widths ≠ [] :=
    drawLines_ne_nil hmem hrow (List.ne_nil_of_length_pos (by omega))
  -- the lines of the text are those that were drawn
  have hlines : line ∈ t.drawLines widths := by
    rw [draw_eq_ok, if_neg (by tauto)] at hdraw
    obtain ⟨others, hothers, rfl⟩ := hdraw
    obtain rfl := Except.ok.inj (hothers.symm.trans hwidths)
    rwa [splitOn_joinWith hnonempty fun _ => newline_not_mem_drawLines hglyphs] at hline
  -- with the widths as bounds for themselves, a line is as wide as they are
  have hwidth : Text.width measure line = widths.sum + t.decorationWidth columns := by
    have hbetween := (drawn_of_mem_drawLines hlines).width_le hplaces hwithin
    rw [ht.measure_eq, hlength] at hbetween
    omega
  refine ⟨by rw [hwidth, decorationWidth, Nat.add_assoc], fun hnone hlimit => ?_⟩
  have hwithinLimit := (allotted_of_columnWidths hnone hwidths).limit hlimit
  rw [hcount] at hwithinLimit
  omega

/-- Two columns that share seven places: a wide character, a combining one, a tab and a newline
leave all lines fourteen places wide. -/
theorem width_eq_of_mem_splitOn_draw_wide :
    let t := (Table.empty charWidth).after
      [.setMaxWidth 14, .setHeader ["a日".toList, "b\tc".toList],
        .addRow ["é".toList, "x\ny".toList]]
    let drawn := ("+-----+------+\n" ++ "| a日 |  b   |\n" ++ "|     |  c   |\n" ++
      "+=====+======+\n" ++ "| é   | x    |\n" ++ "|     | y    |\n" ++ "+-----+------+").toList
    t.columnWidths = .ok [3, 4] ∧ t.draw = .ok drawn ∧
      ∀ line ∈ splitOn '\n' drawn, Text.width charWidth line = 14 := by
  intro t drawn
  have hwidths : t.columnWidths = .ok [3, 4] := by decide +kernel
  have hdraw : t.draw = .ok drawn := by decide +kernel
  have hglyphs : t.glyphs.toList.all fun glyph => t.measure glyph = 1 := by decide
  have hplaces : t.SinglePlaced := ⟨by decide, by simpa using hglyphs⟩
  have hchars : ∀ row ∈ t.header :: t.rows, CharsWithin charWidth [3, 4] row := by decide +kernel
  refine ⟨hwidths, hdraw, fun line hline => ?_⟩
  have hheader : t.header ≠ [] := List.cons_ne_nil _ _
  exact (width_eq_of_mem_splitOn_draw (t := t) rfl rfl (by decide) (fun _ h => by cases h)
    (.inl hheader) hplaces (by decide) hwidths hchars hdraw hline).1

end Table

end Gemtext
