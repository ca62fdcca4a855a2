import Gemtext.Proofs.Table.Rectangle
import Gemtext.Text.CharWidth

/-!
# Tables within their limit

The columns share what the limit leaves with no regard to the characters they hold, and a line of
a cell takes one character at least.  So a character that is wider than its column takes more than
the column has (`Table.Cramped`).  The lines of a drawn table may exceed the limit by what the
widest characters of such columns take beyond them (`Table.overhang`), but by no more
(`Table.width_le_of_mem_splitOn_draw`).  That is one place for each of them if no character takes
more than two.
-/

namespace Gemtext

/-! ## The glyphs of the named styles -/

namespace Glyphs

/-- Glyphs are read from the characters of a text. -/
theorem mem_of_mem_ofText {s : Text} {glyphs : Glyphs} (h : ofText s = .ok glyphs) :
    ∀ glyph ∈ glyphs.toList, glyph ∈ s := by
  unfold ofText at h
  split at h
  · cases h
    simp [ofFour, toList]
  · cases h
    simp [toList]
  · cases h

/-- No glyph of a named style is a newline. -/
theorem newline_not_mem_of_named {name : Text} {glyphs : Glyphs} (h : named name = .ok glyphs) :
    '\n' ∉ glyphs.toList := by
  have hstyles : styles.all fun style => !style.2.toList.contains '\n' := by decide +kernel
  unfold named at h
  split at h
  · rename_i style hfind
    intro hglyph
    have hstyle := List.all_eq_true.1 hstyles style (List.mem_of_find?_eq_some hfind)
    simp [mem_of_mem_ofText h '\n' hglyph] at hstyle
  · cases h

end Glyphs

namespace Table

open Text

variable {t : Table} {measure : Measure} {line : Text} {widths : List Nat}

/-! ## Cramped columns -/

/-- The characters that a column has to show.  Newlines and tabs are not drawn. -/
def drawnChars (t : Table) (column : Nat) : Text :=
  ((t.header :: t.rows).flatMap fun row => row.getD column []).filter fun c =>
    c != '\n' && c != '\t'

/-- A character is drawn if it stands in a cell of the column, unless it ends a line or is a tab. -/
theorem mem_drawnChars {c : Char} {column : Nat} :
    c ∈ t.drawnChars column ↔
      (∃ row ∈ t.header :: t.rows, c ∈ row.getD column []) ∧ c ≠ '\n' ∧ c ≠ '\t' := by
  simp only [drawnChars, List.mem_filter, List.mem_flatMap, Bool.and_eq_true, bne_iff_ne]

/-- The places that the widest character of a column takes. -/
def widest (t : Table) (column : Nat) : Nat :=
  ((t.drawnChars column).map t.measure).foldl max 0

/-- No character that is drawn is wider than the widest. -/
theorem measure_le_widest {c : Char} {column : Nat} (h : c ∈ t.drawnChars column) :
    t.measure c ≤ t.widest column :=
  (List.le_foldl_max _ 0).2 _ (List.mem_map_of_mem h)

/-- The widest character of a column is one of its characters, if it takes a place. -/
theorem exists_measure_eq_widest {column : Nat} (h : 0 < t.widest column) :
    ∃ c ∈ t.drawnChars column, t.measure c = t.widest column := by
  refine List.mem_map.1 (List.foldl_max_mem fun hnil => ?_)
  rw [widest, hnil] at h
  cases h

/-- A column, given by its width and its number, is narrower than one of its characters. -/
def Cramped (t : Table) (column : Nat × Nat) : Prop :=
  column.1 < t.widest column.2

instance (t : Table) : DecidablePred t.Cramped := fun column =>
  inferInstanceAs (Decidable (column.1 < t.widest column.2))

/-- The number of columns that are narrower than one of their characters. -/
def crampedColumns (t : Table) : Nat :=
  match t.columnWidths with
  | .ok widths => widths.zipIdx.countP t.Cramped
  | .error _ => 0

/-- What the widest character of a column takes beyond the width of the column. -/
def excess (t : Table) (column : Nat × Nat) : Nat :=
  t.widest column.2 - column.1

/-- What the widest characters of all columns take beyond the columns. -/
def overhang (t : Table) : Nat :=
  match t.columnWidths with
  | .ok widths => (widths.zipIdx.map t.excess).sum
  | .error _ => 0

/-- The places that the lines of a column may take. -/
def roomFor (t : Table) (column : Nat × Nat) : Nat :=
  column.1 + t.excess column

/-- The room for the columns is their widths and what the widest characters take beyond them. -/
theorem sum_map_roomFor (columns : List (Nat × Nat)) :
    (columns.map t.roomFor).sum = (columns.map Prod.fst).sum + (columns.map t.excess).sum := by
  induction columns with
  | nil => rfl
  | cons column columns ih =>
    simp only [List.map_cons, List.sum_cons, ih, roomFor]
    omega

/-- Every character has room in its column. -/
theorem charsWithin_roomFor :
    ∀ row ∈ t.header :: t.rows, CharsWithin t.measure (widths.zipIdx.map t.roomFor) row := by
  intro row hrow cell hcell c hc hnewline htab
  obtain ⟨i, hi, rfl⟩ := List.mem_iff_getElem.1 hcell
  simp only [List.length_zip, List.length_map, List.length_zipIdx] at hi
  simp only [List.getElem_zip, List.getElem_map, List.getElem_zipIdx, Nat.zero_add] at hc ⊢
  have hrowAt : i < row.length := by omega
  have hcellAt : row.getD i [] = row[i] := by simp [hrowAt]
  have hwidest : t.measure c ≤ t.widest i :=
    measure_le_widest (mem_drawnChars.2 ⟨⟨row, hrow, hcellAt ▸ hc⟩, hnewline, htab⟩)
  dsimp only [roomFor, excess]
  omega

/-- A column that is narrower than one of its characters has a place all the same, since it is given
one if it needs any. -/
theorem pos_of_cramped (ht : t.Formed measure) (hspace : t.measure ' ' = 1)
    (hwidths : t.columnWidths = .ok widths) {column : Nat × Nat} (hcolumn : column ∈ widths.zipIdx)
    (hcramped : t.Cramped column) : 0 < column.1 := by
  obtain ⟨c, hc, hwidest⟩ := exists_measure_eq_widest (Nat.zero_lt_of_lt hcramped)
  obtain ⟨⟨row, hrow, hmem⟩, hnewline, htab⟩ := mem_drawnChars.1 hc
  have hwidthAt : widths[column.2]? = some column.1 := by
    simpa using List.mem_zipIdx_iff_getElem?.1 hcolumn
  cases hcell : row[column.2]? with
  | none => simp [hcell] at hmem
  | some cell =>
    rw [List.getD_eq_getElem?_getD, hcell, Option.getD_some] at hmem
    -- the widest character stands in a cell, which therefore needs a place
    have hneed := measure_le_cellWidth_of_mem hspace hmem hnewline htab
    have hpos : 0 < t.measure c := by
      rw [hwidest]
      exact Nat.zero_lt_of_lt hcramped
    exact pos_of_columnWidths ht hwidths hrow hcell hwidthAt (by omega)

/-- If no character takes more than `bound` places, a cramped column lacks one place less than that
at most. -/
theorem overhang_le (ht : t.Formed measure) (hspace : t.measure ' ' = 1) {bound : Nat}
    (hbound : ∀ c, t.measure c ≤ bound) : t.overhang ≤ t.crampedColumns * (bound - 1) := by
  unfold overhang crampedColumns
  split
  · next widths hwidths =>
    -- a cramped column has one place at least, so the rest of the character hangs over
    have hexcess : ∀ column ∈ widths.zipIdx,
        t.excess column ≤ if t.Cramped column then bound - 1 else 0 := by
      intro column hcolumn
      unfold excess
      split
      · next hcramped =>
        have hpos := pos_of_cramped ht hspace hwidths hcolumn hcramped
        obtain ⟨c, -, hwidest⟩ := exists_measure_eq_widest (Nat.zero_lt_of_lt hcramped)
        have hle := hbound c
        omega
      · next hwide =>
        rw [Cramped] at hwide
        omega
    generalize widths.zipIdx = columns at hexcess
    -- only cramped columns add to the sum
    induction columns with
    | nil => exact Nat.zero_le _
    | cons column columns ih =>
      obtain ⟨hfirst, hrest⟩ := List.forall_mem_cons.1 hexcess
      have hsum := ih hrest
      rw [List.map_cons, List.sum_cons, List.countP_cons]
      by_cases hcramped : t.Cramped column
      · simp only [hcramped, if_true, decide_true, Nat.add_mul, Nat.one_mul] at hfirst ⊢
        omega
      · simp only [hcramped, if_false, decide_false, Bool.false_eq_true, Nat.add_zero] at hfirst ⊢
        omega
  · exact Nat.zero_le _

/-! ## The limit -/

/-- A table of arbitrary text keeps to its limit, but for what the widest characters of its columns
take beyond the columns: with characters of at most two places, that is one place for each column of
one place that holds a wide character.  That is so whatever has been done to the table, in whatever
order, if it has no fixed widths and the glyphs of a named style, and if a space and these glyphs
take one place. -/
theorem width_le_of_mem_splitOn_draw {measure : Measure} {ops : List Operation}
    (hmade : (Table.empty measure).after ops = t) {name : Text}
    (hnamed : Glyphs.named name = .ok t.glyphs) (hspace : measure ' ' = 1)
    (hglyph : ∀ glyph ∈ t.glyphs.toList, measure glyph = 1) (hfixed : t.fixedWidths = none)
    (hlimit : 0 < t.maxWidth) {drawn : Text} (hdraw : t.draw = .ok drawn)
    (hline : line ∈ splitOn '\n' drawn) :
    Text.width measure line ≤ t.maxWidth + t.overhang ∧
      ∀ bound : Nat, (∀ c, measure c ≤ bound) →
        Text.width measure line ≤ t.maxWidth + t.crampedColumns * (bound - 1) := by
  have ht : t.Formed measure := hmade ▸ (Formed.empty measure).after ops
  have hmeasure : t.measure = measure := ht.measure_eq
  rw [← hmeasure] at hspace hglyph ⊢
  have hoverhang : Text.width t.measure line ≤ t.maxWidth + t.overhang := by
    rcases mem_splitOn_draw (Glyphs.newline_not_mem_of_named hnamed) hdraw hline with
      rfl | ⟨widths, hwidths, hlines⟩
    · exact Nat.zero_le _
    · have hroom : List.Forall₂ (· ≤ ·) widths (widths.zipIdx.map t.roomFor) := by
        conv => arg 2; rw [← List.zipIdx_map_fst 0 widths]
        rw [List.forall₂_map_left_iff, List.forall₂_map_right_iff, List.forall₂_same]
        exact fun column _ => Nat.le_add_right _ _
      have hallotted := allotted_of_columnWidths hfixed hwidths
      have hwithin : t.Within widths (widths.zipIdx.map t.roomFor) :=
        within_of_charsWithin ht hspace (fun fixed h => by rw [hfixed] at h; cases h) hwidths
          hroom charsWithin_roomFor
      -- the lines take the room for all columns and the decoration
      have hwidth := ((drawn_of_mem_drawLines hlines).width_le ⟨hspace, hglyph⟩ hwithin).2
      have htotal := hallotted.limit hlimit
      have hexcess : t.overhang = (widths.zipIdx.map t.excess).sum := by rw [overhang, hwidths]
      rw [sum_map_roomFor, List.zipIdx_map_fst, hallotted.length] at hwidth
      omega
  refine ⟨hoverhang, fun bound hbound => ?_⟩
  have hle := overhang_le ht hspace hbound
  omega

/-- Two columns of wide and narrow characters share the four places that are left, and no line
exceeds the limit. -/
theorem width_le_of_mem_splitOn_draw_shared :
    let t := (Table.empty charWidth).after
      [.setMaxWidth 11, .setHeader ["日本".toList, "a b".toList]]
    let drawn := ("+----+----+\n" ++ "| 日 | a  |\n" ++ "| 本 | b  |\n" ++ "+====+====+\n" ++
      "+----+----+").toList
    t.draw = .ok drawn ∧ t.overhang = 0 ∧
      ∀ line ∈ splitOn '\n' drawn, Text.width charWidth line ≤ 11 := by
  intro t drawn
  have hdraw : t.draw = .ok drawn := by decide +kernel
  have hoverhang : t.overhang = 0 := by decide +kernel
  refine ⟨hdraw, hoverhang, fun line hline => ?_⟩
  -- the glyphs are those of the style that every table begins with
  have hnamed : Glyphs.named "ascii".toList = .ok t.glyphs := rfl
  have hglyphs : t.glyphs.toList.all fun glyph => charWidth glyph = 1 := by decide +kernel
  have hglyph : ∀ glyph ∈ t.glyphs.toList, charWidth glyph = 1 := fun glyph hmem =>
    of_decide_eq_true (List.all_eq_true.1 hglyphs glyph hmem)
  have hwidth := (width_le_of_mem_splitOn_draw (t := t) rfl hnamed rfl hglyph rfl (by decide) hdraw
    hline).1
  rwa [hoverhang] at hwidth

/-- The one column has one place left, and its wide character takes two: the limit is exceeded. -/
theorem limit_lt_width_wide :
    let t := (Table.empty charWidth).after [.setMaxWidth 5, .setHeader [['日']]]
    let drawn := ("+---+\n" ++ "| 日 |\n" ++ "+===+\n" ++ "+---+").toList
    Glyphs.named "ascii".toList = .ok t.glyphs ∧ t.fixedWidths = none ∧ t.maxWidth = 5 ∧
      t.draw = .ok drawn ∧ ∃ line ∈ splitOn '\n' drawn, Text.width charWidth line = 6 := by
  intro t drawn
  exact ⟨rfl, rfl, rfl, by decide +kernel, "| 日 |".toList, by decide +kernel, by decide +kernel⟩

end Table

end Gemtext
