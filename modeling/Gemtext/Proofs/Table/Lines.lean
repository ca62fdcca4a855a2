import Gemtext.Proofs.Text.Wrap
import Gemtext.Table.Draw

/-!
# The lines of a drawn table

The lines of a drawn table are rules and lines of rows (`drawn_of_mem_drawLines`).  Wrapping a cell
puts in spaces only, and the cell is cut at its newlines before, so no drawn line holds a newline
(`newline_not_mem_drawLines`), if none is among the glyphs.  In a table with a border, every line
begins with a glyph, whatever the cells hold (`exists_glyph_of_mem_splitOn_draw`).
-/

namespace Gemtext

namespace Table

open Text

variable {t : Table} {line : Text}

/-! ## The lines of the cells -/

/-- The lines of a cell are cut at its newlines. -/
theorem not_mem_cellLines {measure : Measure} {width : Nat} {cell : Text}
    (h : line ∈ cellLines measure width cell) : '\n' ∉ line := by
  obtain ⟨piece, hpiece, h⟩ := List.mem_flatMap.1 h
  intro hn
  split at h
  · rw [List.mem_singleton.1 h] at hn
    exact List.not_mem_nil hn
  · rcases mem_wrap h hn with hn | hn
    · exact (mem_and_ne_of_mem_splitOn hpiece hn).2 rfl
    · exact absurd hn (by decide)

/-- Padding puts in nothing but empty lines. -/
theorem mem_padLines {alignment : VerticalAlignment} {height : Nat} {lines : List Text}
    (h : line ∈ padLines alignment height lines) : line ∈ lines ∨ line = [] := by
  simp only [padLines, List.append_assoc, List.mem_append, List.mem_replicate] at h
  rcases h with ⟨-, rfl⟩ | h | ⟨-, rfl⟩
  · exact .inr rfl
  · exact .inl h
  · exact .inr rfl

/-- Padded lines fill the height. -/
theorem length_padLines {alignment : VerticalAlignment} {height : Nat} {lines : List Text}
    (h : lines.length ≤ height) : (padLines alignment height lines).length = height := by
  cases alignment <;>
  · simp only [padLines, List.length_append, List.length_replicate]
    omega

@[simp]
theorem padCells_nil (height : Nat) (alignments : List VerticalAlignment) :
    padCells height alignments [] = [] := by
  cases alignments <;> rfl

/-- A cell without an alignment is aligned to the top. -/
theorem padCells_cons (height : Nat) (alignments : List VerticalAlignment) (lines : List Text)
    (cells : List (List Text)) :
    padCells height alignments (lines :: cells) =
      padLines (alignments.headD .top) height lines :: padCells height alignments.tail cells := by
  cases alignments <;> rfl

/-- The lines of padded cells are those of the cells, or empty. -/
theorem mem_padCells {height : Nat} {alignments : List VerticalAlignment}
    {cells : List (List Text)} {lines : List Text}
    (hlines : lines ∈ padCells height alignments cells) (h : line ∈ lines) :
    (∃ cell ∈ cells, line ∈ cell) ∨ line = [] := by
  induction cells generalizing alignments with
  | nil => simp at hlines
  | cons cell cells ih =>
    rw [padCells_cons] at hlines
    rcases List.mem_cons.1 hlines with rfl | hlines
    · exact (mem_padLines h).imp_left fun h => ⟨cell, List.mem_cons_self, h⟩
    · refine (ih hlines).imp_left ?_
      rintro ⟨other, hother, h⟩
      exact ⟨other, List.mem_cons_of_mem _ hother, h⟩

/-- All cells of a row are padded to one height. -/
theorem length_of_mem_padCells {height : Nat} {alignments : List VerticalAlignment}
    {cells : List (List Text)} (h : ∀ lines ∈ cells, lines.length ≤ height) :
    ∀ lines ∈ padCells height alignments cells, lines.length = height := by
  induction cells generalizing alignments with
  | nil => simp
  | cons lines cells ih =>
    obtain ⟨hlines, hcells⟩ := List.forall_mem_cons.1 h
    rw [padCells_cons]
    exact List.forall_mem_cons.2 ⟨length_padLines hlines, ih hcells⟩

theorem length_padCells (height : Nat) (alignments : List VerticalAlignment)
    (cells : List (List Text)) : (padCells height alignments cells).length = cells.length := by
  induction cells generalizing alignments with
  | nil => simp
  | cons lines cells ih => rw [padCells_cons, List.length_cons, List.length_cons, ih]

/-- A row has as many cells as it has texts and widths. -/
theorem length_rowLines (measure : Measure) (row : List Text) (widths : List Nat)
    (alignments : List VerticalAlignment) :
    (rowLines measure row widths alignments).length = min row.length widths.length := by
  rw [rowLines, length_padCells, List.length_zipWith]

/-- The number of lines that a row takes: that of its cell with the most lines. -/
def rowHeight (measure : Measure) (row : List Text) (widths : List Nat) : Nat :=
  ((List.zipWith (fun cell width => cellLines measure width cell) row widths).map
    List.length).foldl max 0

/-- The cells of a row have equally many lines. -/
theorem length_of_mem_rowLines {measure : Measure} {row : List Text} {widths : List Nat}
    {alignments : List VerticalAlignment} {lines : List Text}
    (h : lines ∈ rowLines measure row widths alignments) :
    lines.length = rowHeight measure row widths :=
  length_of_mem_padCells (fun _ hlines => (List.le_foldl_max _ 0).2 _ (List.mem_map_of_mem hlines))
    lines h

/-- No line of a row holds a newline. -/
theorem not_mem_rowLines {measure : Measure} {row : List Text} {widths : List Nat}
    {alignments : List VerticalAlignment} {lines : List Text}
    (hlines : lines ∈ rowLines measure row widths alignments) (h : line ∈ lines) : '\n' ∉ line := by
  rcases mem_padCells hlines h with ⟨cell, hcell, h⟩ | rfl
  · obtain ⟨i, hi, rfl⟩ := List.getElem_of_mem hcell
    rw [List.getElem_zipWith] at h
    exact not_mem_cellLines h
  · exact List.not_mem_nil

/-- Filling puts in nothing but spaces. -/
theorem mem_fillLine {measure : Measure} {alignment : Alignment} {width : Nat} {c : Char}
    (h : c ∈ fillLine measure alignment width line) : c ∈ line ∨ c = ' ' := by
  unfold fillLine at h
  cases alignment with
  | left => exact (List.mem_append.1 h).imp_right mem_spaces
  | right => exact (List.mem_append.1 h).symm.imp_right mem_spaces
  | center =>
    rcases List.mem_append.1 h with h | h
    · exact (List.mem_append.1 h).symm.imp_right mem_spaces
    · exact .inr (mem_spaces h)

@[simp]
theorem fillLines_nil_left (measure : Measure) (alignments : List Alignment) (lines : List Text) :
    fillLines measure alignments [] lines = [] := by
  cases alignments <;> rfl

@[simp]
theorem fillLines_nil_right (measure : Measure) (alignments : List Alignment) (widths : List Nat) :
    fillLines measure alignments widths [] = [] := by
  cases alignments <;> cases widths <;> rfl

/-- A column without an alignment is aligned to the left. -/
theorem fillLines_cons (measure : Measure) (alignments : List Alignment) (width : Nat)
    (widths : List Nat) (line : Text) (lines : List Text) :
    fillLines measure alignments (width :: widths) (line :: lines) =
      fillLine measure (alignments.headD .left) width line ::
        fillLines measure alignments.tail widths lines := by
  cases alignments <;> rfl

/-- So does filling the lines of a row. -/
theorem mem_fillLines {measure : Measure} {alignments : List Alignment} {widths : List Nat}
    {lines : List Text} {c : Char} (hline : line ∈ fillLines measure alignments widths lines)
    (h : c ∈ line) : (∃ source ∈ lines, c ∈ source) ∨ c = ' ' := by
  induction lines generalizing alignments widths with
  | nil => simp at hline
  | cons first lines ih =>
    cases widths with
    | nil => simp at hline
    | cons width widths =>
      rw [fillLines_cons] at hline
      -- the first line, or one of the others
      rcases List.mem_cons.1 hline with rfl | hline
      · exact (mem_fillLine h).imp_left fun h => ⟨first, List.mem_cons_self, h⟩
      · refine (ih hline).imp_left ?_
        rintro ⟨source, hsource, h⟩
        exact ⟨source, List.mem_cons_of_mem _ hsource, h⟩

/-! ## The lines of a row -/

/-- One drawn line of a row, with the given line of each cell. -/
def drawRowLine (t : Table) (widths : List Nat) (alignments : List Alignment)
    (shown : List Text) : Text :=
  t.frame t.glyphs.vertical ' ' t.glyphs.vertical
    (joinWith (spaces t.padding ++
        (if t.decorations.columnRules then t.glyphs.vertical else ' ') :: spaces t.padding)
      (Table.fillLines t.measure alignments widths shown))

section

variable (t : Table) (widths : List Nat) (alignments : List Alignment)
  (verticalAlignments : List VerticalAlignment) (row : List Text)

/-- A row is drawn line by line. -/
theorem drawRow_eq_map :
    t.drawRow widths alignments verticalAlignments row =
      (List.range ((rowLines t.measure row widths verticalAlignments).headD []).length).map fun i =>
        t.drawRowLine widths alignments
          ((rowLines t.measure row widths verticalAlignments).map (·.getD i [])) := rfl

/-- A row is drawn on as many lines as it is high. -/
theorem length_drawRow :
    (t.drawRow widths alignments verticalAlignments row).length =
      rowHeight t.measure row widths := by
  rw [drawRow_eq_map, List.length_map, List.length_range]
  cases hcells : rowLines t.measure row widths verticalAlignments with
  | nil =>
    -- there are no cells, or no columns for them
    have hnone := length_rowLines t.measure row widths verticalAlignments
    rw [hcells] at hnone
    have hzip :
        List.zipWith (fun cell width => cellLines t.measure width cell) row widths = [] := by
      rw [← List.length_eq_zero_iff, List.length_zipWith, ← hnone, List.length_nil]
    rw [rowHeight, hzip]
    rfl
  | cons lines cells => exact length_of_mem_rowLines (hcells ▸ List.mem_cons_self)

variable {t widths alignments verticalAlignments row}

/-- A drawn line shows one line of each cell. -/
theorem exists_of_mem_drawRow (h : line ∈ t.drawRow widths alignments verticalAlignments row) :
    ∃ i, line = t.drawRowLine widths alignments
      ((rowLines t.measure row widths verticalAlignments).map (·.getD i [])) := by
  rw [drawRow_eq_map] at h
  obtain ⟨i, -, rfl⟩ := List.mem_map.1 h
  exact ⟨i, rfl⟩

end

/-! ## The lines of the table -/

/-- The rules of a table, made of its glyphs. -/
structure Rule.Of (rule : Rule) (g : Glyphs) : Prop where
  left : rule.left ∈ g.toList
  cross : rule.cross ∈ g.toList
  right : rule.right ∈ g.toList
  line : rule.line ∈ g.toList

theorem topRule_of (g : Glyphs) : (topRule g).Of g := by
  constructor <;> simp [topRule, Glyphs.toList]

theorem headerRule_of (g : Glyphs) : (headerRule g).Of g := by
  constructor <;> simp [headerRule, Glyphs.toList]

theorem rowRule_of (g : Glyphs) : (rowRule g).Of g := by
  constructor <;> simp [rowRule, Glyphs.toList]

theorem bottomRule_of (g : Glyphs) : (bottomRule g).Of g := by
  constructor <;> simp [bottomRule, Glyphs.toList]

theorem vertical_mem_toList (g : Glyphs) : g.vertical ∈ g.toList := by
  simp [Glyphs.toList]

/-- A line of a drawn table: a rule, or a line of the header or of a row. -/
inductive Drawn (t : Table) (widths : List Nat) : Text → Prop where
  | rule {rule : Rule} (hrule : rule.Of t.glyphs) : Drawn t widths (t.drawRule widths rule)
  | row {row : List Text} {alignments : List Alignment}
    {verticalAlignments : List VerticalAlignment} {line : Text} (hrow : row ∈ t.header :: t.rows)
    (hline : line ∈ t.drawRow widths alignments verticalAlignments row) : Drawn t widths line

/-- Joined blocks hold their lines and the rules between them. -/
theorem mem_joinBlocks {rule? : Option Text} {blocks : List (List Text)}
    (h : line ∈ joinBlocks rule? blocks) :
    (∃ block ∈ blocks, line ∈ block) ∨ rule? = some line := by
  fun_induction joinBlocks rule? blocks with
  | case1 => simp at h
  | case2 block => exact .inl ⟨block, List.mem_cons_self, h⟩
  | case3 block blocks _ ih =>
    rw [List.append_assoc, List.mem_append, List.mem_append, Option.mem_toList] at h
    rcases h with h | h | h
    · exact .inl ⟨block, List.mem_cons_self, h⟩
    · exact .inr h
    · refine (ih h).imp_left ?_
      rintro ⟨other, hother, h⟩
      exact ⟨other, List.mem_cons_of_mem _ hother, h⟩

/-- Every line of the table is a rule or a line of a row. -/
theorem drawn_of_mem_drawLines {widths : List Nat} (h : line ∈ t.drawLines widths) :
    t.Drawn widths line := by
  -- a rule that is asked for is one of the glyphs
  have hrule {present : Bool} {rule : Glyphs → Rule} (hrule : (rule t.glyphs).Of t.glyphs)
      (h : (if present then some (t.drawRule widths (rule t.glyphs)) else none) = some line) :
      t.Drawn widths line := by
    split at h
    · obtain rfl := Option.some.inj h
      exact .rule hrule
    · cases h
  simp only [drawLines, List.append_assoc, List.mem_append, Option.mem_toList] at h
  rcases h with h | h | h | h
  · exact hrule (topRule_of t.glyphs) h
  · split at h
    · cases h
    · rcases List.mem_append.1 h with h | h
      · exact .row List.mem_cons_self h
      · exact hrule (headerRule_of t.glyphs) (Option.mem_toList.1 h)
  · rcases mem_joinBlocks h with ⟨block, hblock, h⟩ | h
    · obtain ⟨row, hmem, rfl⟩ := List.mem_map.1 hblock
      exact .row (List.mem_cons_of_mem _ hmem) h
    · exact hrule (rowRule_of t.glyphs) h
  · exact hrule (bottomRule_of t.glyphs) h

/-! ## Characters that are not drawn -/

section

variable {c : Char} (hglyphs : c ∉ t.glyphs.toList)
include hglyphs

/-- What is no glyph differs from each of them. -/
theorem ne_of_mem_glyphs {glyph : Char} (h : glyph ∈ t.glyphs.toList) : c ≠ glyph := by
  rintro rfl
  exact hglyphs h

omit hglyphs in
/-- A frame puts in nothing but its ends and its padding. -/
theorem not_mem_frame {first padding last : Char} (hfirst : c ≠ first) (hpadding : c ≠ padding)
    (hlast : c ≠ last) (hline : c ∉ line) : c ∉ t.frame first padding last line := by
  unfold frame
  split
  · simp [hfirst, hlast, hline, hpadding]
  · exact hline

/-- A rule is drawn with glyphs only. -/
theorem not_mem_drawRule (widths : List Nat) {rule : Rule} (hrule : rule.Of t.glyphs) :
    c ∉ t.drawRule widths rule := by
  have hne {glyph : Char} (h : glyph ∈ t.glyphs.toList) : c ≠ glyph := ne_of_mem_glyphs hglyphs h
  refine not_mem_frame (hne hrule.left) (hne hrule.line) (hne hrule.right) fun hn => ?_
  rcases mem_joinWith hn with hn | ⟨column, hcolumn, hn⟩
  · split at hn <;> simp [hne hrule.line, hne hrule.cross] at hn
  · obtain ⟨width, -, rfl⟩ := List.mem_map.1 hcolumn
    exact hne hrule.line (List.mem_replicate.1 hn).2

/-- What stands between two columns of a row are spaces, and a glyph if there are rules. -/
theorem not_mem_separator (hspace : c ≠ ' ') :
    c ∉ spaces t.padding ++
      (if t.decorations.columnRules then t.glyphs.vertical else ' ') :: spaces t.padding := by
  have hspaces : c ∉ spaces t.padding := fun h => hspace (mem_spaces h)
  have hvertical := ne_of_mem_glyphs hglyphs (vertical_mem_toList t.glyphs)
  split <;> simp [hspaces, hvertical, hspace]

end

/-! ## Newlines -/

section

variable (hglyphs : '\n' ∉ t.glyphs.toList)
include hglyphs

/-- A drawn line of a row is one line. -/
theorem newline_not_mem_drawRow {widths : List Nat} {alignments : List Alignment}
    {verticalAlignments : List VerticalAlignment} {row : List Text}
    (h : line ∈ t.drawRow widths alignments verticalAlignments row) : '\n' ∉ line := by
  obtain ⟨i, rfl⟩ := exists_of_mem_drawRow h
  have hvertical := ne_of_mem_glyphs hglyphs (vertical_mem_toList t.glyphs)
  refine not_mem_frame hvertical (by decide) hvertical fun hn => ?_
  -- a newline would come from a separator, or from a line of a cell
  rcases mem_joinWith hn with hn | ⟨filled, hfilled, hn⟩
  · exact not_mem_separator hglyphs (by decide) hn
  · rcases mem_fillLines hfilled hn with ⟨source, hsource, hn⟩ | hn
    · obtain ⟨lines, hlines, rfl⟩ := List.mem_map.1 hsource
      rw [List.getD_eq_getElem?_getD] at hn
      cases hget : lines[i]? with
      | none => simp [hget] at hn
      | some shown =>
        rw [hget] at hn
        exact not_mem_rowLines hlines (List.mem_of_getElem? hget) hn
    · exact absurd hn (by decide)

/-- No line of a drawn table holds a newline, if none of its glyphs is one. -/
theorem newline_not_mem_drawLines {widths : List Nat} (h : line ∈ t.drawLines widths) :
    '\n' ∉ line := by
  cases drawn_of_mem_drawLines h with
  | rule hrule => exact not_mem_drawRule hglyphs widths hrule
  | row _ hline => exact newline_not_mem_drawRow hglyphs hline

end

/-! ## The drawn text -/

/-- A table is drawn as nothing if it has neither header nor rows, and else line by line in columns
of its widths. -/
theorem draw_eq_ok {drawn : Text} :
    t.draw = .ok drawn ↔
      if t.header = [] ∧ t.rows = [] then drawn = []
      else
        ∃ widths, t.columnWidths = .ok widths ∧
          drawn = joinWith ['\n'] (t.drawLines widths) := by
  unfold draw
  -- a table without content draws to nothing
  by_cases hcontent : t.header = [] ∧ t.rows = []
  · simp [hcontent, eq_comm]
  · have hshown : (t.header.isEmpty && t.rows.isEmpty) = false := by
      simpa [List.isEmpty_iff] using hcontent
    rw [hshown, if_neg Bool.false_ne_true, if_neg hcontent]
    cases hwidths : t.columnWidths with
    | error cause => simp [Except.map]
    | ok widths => simp [Except.map, eq_comm]

/-- A table with header or rows cannot be drawn just if there are no widths for its columns. -/
theorem draw_eq_error {cause : TableError} :
    t.draw = .error cause ↔ ¬(t.header = [] ∧ t.rows = []) ∧ t.columnWidths = .error cause := by
  unfold draw
  by_cases hcontent : t.header = [] ∧ t.rows = []
  · simp [hcontent]
  · have hshown : (t.header.isEmpty && t.rows.isEmpty) = false := by
      simpa [List.isEmpty_iff] using hcontent
    rw [hshown, if_neg Bool.false_ne_true]
    cases hwidths : t.columnWidths with
    | error other => simp [Except.map, hcontent]
    | ok widths => simp [Except.map]

/-- The lines of the drawn text are the drawn lines; only a table without lines is drawn as an empty
line. -/
theorem mem_splitOn_draw (hglyphs : '\n' ∉ t.glyphs.toList) {drawn : Text}
    (hdraw : t.draw = .ok drawn) (hline : line ∈ splitOn '\n' drawn) :
    line = [] ∨ ∃ widths, t.columnWidths = .ok widths ∧ line ∈ t.drawLines widths := by
  rw [draw_eq_ok] at hdraw
  split at hdraw
  · rw [hdraw] at hline
    exact .inl (List.mem_singleton.1 hline)
  · obtain ⟨widths, hwidths, rfl⟩ := hdraw
    by_cases hlines : t.drawLines widths = []
    · rw [hlines] at hline
      exact .inl (List.mem_singleton.1 hline)
    · rw [splitOn_joinWith hlines fun _ => newline_not_mem_drawLines hglyphs] at hline
      exact .inr ⟨widths, hwidths, hline⟩

/-- The table is drawn with a border, and no glyph is a newline. -/
structure Bordered (t : Table) : Prop where
  border : t.decorations.border
  newline_not_mem : '\n' ∉ t.glyphs.toList

/-- With a border, every line begins with a glyph. -/
theorem exists_glyph_of_mem_drawLines (ht : t.Bordered) {widths : List Nat}
    (hline : line ∈ t.drawLines widths) :
    ∃ glyph rest, line = glyph :: rest ∧ glyph ∈ t.glyphs.toList := by
  -- the frame begins with its first glyph
  have hframe (first padding last : Char) (line : Text) :
      ∃ rest, t.frame first padding last line = first :: rest := by
    rw [frame, if_pos ht.border]
    exact ⟨_, rfl⟩
  cases drawn_of_mem_drawLines hline with
  | rule hrule =>
    obtain ⟨rest, hrest⟩ := hframe ..
    exact ⟨_, rest, hrest, hrule.left⟩
  | row _ hline =>
    obtain ⟨i, rfl⟩ := exists_of_mem_drawRow hline
    obtain ⟨rest, hrest⟩ := hframe ..
    exact ⟨_, rest, hrest, vertical_mem_toList t.glyphs⟩

/-- A table that is drawn with a border begins every line with a glyph; only a table without header
and rows has no line. -/
theorem exists_glyph_of_mem_splitOn_draw (ht : t.Bordered) {drawn : Text}
    (hdraw : t.draw = .ok drawn) (hline : line ∈ splitOn '\n' drawn) :
    line = [] ∨ ∃ glyph rest, line = glyph :: rest ∧ glyph ∈ t.glyphs.toList := by
  refine (mem_splitOn_draw ht.newline_not_mem hdraw hline).imp_right ?_
  rintro ⟨widths, -, hline⟩
  exact exists_glyph_of_mem_drawLines ht hline

end Table

end Gemtext
