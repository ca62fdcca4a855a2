import Gemtext.Proofs.Table.Contents
import Gemtext.Text.CharWidth

/-!
# The cells of a row are brought to one height

The lines of a cell are put between empty lines, as the alignment of its column asks for
(`exists_padLines_eq`), until the cell is as high as the highest one of the row.  So the cells of a
row are there one by one, with all their lines in order (`rowLines_keeps_cells`), and a line of each
can be taken at every height.
-/

namespace Gemtext

/-- How an alignment shares out the empty lines above and below a cell. -/
def VerticalAlignment.Shares : VerticalAlignment → Nat → Nat → Prop
  | .top, above, _ => above = 0
  | .middle, above, below => above ≤ below ∧ below ≤ above + 1
  | .bottom, _, below => below = 0

namespace Table

open Text

/-- The empty lines around a cell make up for what it is lower than the row. -/
theorem exists_padLines_eq (alignment : VerticalAlignment) {height : Nat} {lines : List Text}
    (h : lines.length ≤ height) :
    ∃ above below, above + lines.length + below = height ∧ alignment.Shares above below ∧
      padLines alignment height lines =
        List.replicate above [] ++ lines ++ List.replicate below [] := by
  cases alignment with
  | top =>
    refine ⟨0, height - lines.length, by omega, rfl, ?_⟩
    rw [padLines, Nat.sub_zero]
  | middle =>
    -- an odd line stands below
    refine ⟨(height - lines.length) / 2, height - lines.length - (height - lines.length) / 2,
      by omega, ?_, rfl⟩
    exact ⟨by omega, by omega⟩
  | bottom =>
    refine ⟨height - lines.length, 0, by omega, rfl, ?_⟩
    rw [padLines, Nat.sub_self]

/-- Each cell is padded by the alignment of its column. -/
theorem getElem?_padCells (height : Nat) (alignments : List VerticalAlignment)
    (cells : List (List Text)) (i : Nat) :
    (padCells height alignments cells)[i]? =
      cells[i]?.map (padLines (alignments.getD i .top) height) := by
  induction cells generalizing alignments i with
  | nil => simp
  | cons lines cells ih =>
    rw [padCells_cons]
    cases i with
    | zero => cases alignments <;> rfl
    | succ i =>
      rw [List.getElem?_cons_succ, List.getElem?_cons_succ, ih]
      cases alignments <;> rfl

/-- Splitting a row keeps every cell.  For as many widths as cells, there is a list of lines for
each cell, all of one height, which is the largest number of lines that a cell of the row is wrapped
to.  Each list is the lines of its cell, in order and in one piece, between empty lines: none above
for a cell that is aligned to the top, none below for one at the bottom, and for one in the middle
as many above as below or one fewer.  And it shows what the cell shows. -/
theorem rowLines_keeps_cells (measure : Measure) {row : List Text} {widths : List Nat}
    (hlength : row.length = widths.length) (alignments : List VerticalAlignment) :
    let heights := List.zipWith (fun cell width => (cellLines measure width cell).length) row widths
    let height := rowHeight measure row widths
    let cells := rowLines measure row widths alignments
    cells.length = row.length ∧
      (∀ lines ∈ cells, lines.length = height ∧ height ∈ heights ∧ ∀ own ∈ heights, own ≤ height) ∧
      ∀ i cell width, row[i]? = some cell → widths[i]? = some width →
        ∃ above below,
          let lines :=
            List.replicate above [] ++ cellLines measure width cell ++ List.replicate below []
          cells[i]? = some lines ∧ (alignments.getD i .top).Shares above below ∧
            visible lines.flatten = visible cell := by
  intro heights height cells
  have hheights : (List.zipWith (fun cell width => cellLines measure width cell) row widths).map
      List.length = heights := List.map_zipWith ..
  have hheight : height = heights.foldl max 0 := by rw [← hheights]; rfl
  have hbound : ∀ own ∈ heights, own ≤ height := by
    rw [hheight]
    exact (List.le_foldl_max heights 0).2
  refine ⟨by rw [length_rowLines, ← hlength, Nat.min_self], fun lines hlines => ?_, ?_⟩
  · refine ⟨length_of_mem_rowLines hlines, ?_, hbound⟩
    -- there is a list of lines, and so there is a cell
    have hcells : 0 < cells.length := List.length_pos_of_mem hlines
    rw [length_rowLines] at hcells
    have hsome : heights ≠ [] := by
      apply List.ne_nil_of_length_pos
      rwa [List.length_zipWith]
    rw [hheight]
    exact List.foldl_max_mem hsome
  · intro i cell width hcell hwidth
    have hown : (List.zipWith (fun cell width => cellLines measure width cell) row widths)[i]? =
        some (cellLines measure width cell) := by
      rw [List.getElem?_zipWith, hcell, hwidth]
    have hle : (cellLines measure width cell).length ≤ height := by
      apply hbound
      rw [← hheights]
      exact List.mem_map_of_mem (List.mem_of_getElem? hown)
    obtain ⟨above, below, -, hshares, hlines⟩ :=
      exists_padLines_eq (alignments.getD i .top) hle
    refine ⟨above, below, ?_, hshares, ?_⟩
    · show (padCells height alignments _)[i]? = _
      rw [getElem?_padCells, hown, Option.map_some, hlines]
    · -- the empty lines are not seen
      rw [← hlines, flatten_padLines, ← flatMap_visible, visible_cellLines]

/-- A word is broken and a blank line stays, so the cells have three, one and two lines: the second
one stands in the middle, and the third one at the bottom. -/
theorem rowLines_keeps_cells_aligned :
    let row := ["a\n\nb".toList, ['x'], "wxyz".toList]
    let cells := rowLines charWidth row [1, 1, 2] [.top, .middle, .bottom]
    cells = [[['a'], [], ['b']], [[], ['x'], []], [[], ['w', 'x'], ['y', 'z']]] ∧
      ∀ lines ∈ cells, lines.length = rowHeight charWidth row [1, 1, 2] := by
  intro row cells
  have hcells : cells = [[['a'], [], ['b']], [[], ['x'], []], [[], ['w', 'x'], ['y', 'z']]] := by
    decide +kernel
  have hlength : row.length = [1, 1, 2].length := rfl
  obtain ⟨-, hheights, -⟩ := rowLines_keeps_cells charWidth hlength [.top, .middle, .bottom]
  exact ⟨hcells, fun lines hlines => (hheights lines hlines).1⟩

end Table

end Gemtext
