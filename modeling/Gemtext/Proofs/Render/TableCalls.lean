import Gemtext.Standard.Library
import Gemtext.Proofs.Render.Callbacks
import Gemtext.Proofs.Render.Frame

/-!
# The calls of a table

A table comes to the renderer as the calls of its rows, each of them the calls of its cells and one
call behind them, and the call that draws the table.  What is gathered on the way is known exactly
(`stateAfter_tableCalls`): a table that is drawn, or that has no header, leaves nothing behind.  A
table that is too wide leaves the link lines of its cells, and they are written behind the next
table (`writes_links_of_failed_table`).
-/

namespace Gemtext

open Render

/-- A cell of a table, as it is handed to the renderer. -/
structure CellCall where
  content : Content
  alignment : Alignment
  isHead : Bool

/-- A row of a table, as it is handed to the renderer: its cells, and then the content that is
handed over for the row. -/
structure RowCall where
  cells : List CellCall
  isHead : Bool
  content : Content

namespace RowCall

/-- The calls of the cells, and the call of the row. -/
def calls (row : RowCall) : List Callback :=
  row.cells.map (fun cell => .tableCell cell.content cell.alignment cell.isHead) ++
    [if row.isHead then .tableHead row.content else .tableRow row.content]

/-- The link lines of the cells. -/
def links (row : RowCall) : Content :=
  row.cells.flatMap fun cell => cell.content.linkLines

end RowCall

/-- The calls of a table with the given rows. -/
def tableCalls (rows : List RowCall) : List Callback :=
  rows.flatMap RowCall.calls ++ [.table]

/-- Whether the table of the given rows is drawn, or nothing is to be drawn, from state `s` on. -/
def drawsTable (c : Conversion) (s : RenderState) (rows : List RowCall) : Bool :=
  match (Callback.table.run c (stateAfter c s (rows.flatMap RowCall.calls))).1 with
  | .ok _ => true
  | .error _ => false

variable {c : Conversion}

/-- Cells are gathered one by one: their alignments, and their link lines. -/
theorem stateAfter_cellCalls (s : RenderState) (cells : List CellCall) :
    stateAfter c s (cells.map fun cell => .tableCell cell.content cell.alignment cell.isHead) =
      { s with
        alignments := s.alignments ++ cells.map CellCall.alignment
        tableLinks := s.tableLinks ++ cells.flatMap fun cell => cell.content.linkLines } := by
  induction cells generalizing s with
  | nil => simp
  | cons cell cells ih =>
    have hcell : ((Callback.tableCell cell.content cell.alignment cell.isHead).run c s).2 =
        { s with
          alignments := s.alignments ++ [cell.alignment]
          tableLinks := s.tableLinks ++ cell.content.linkLines } := rfl
    rw [List.map_cons, stateAfter_cons, hcell, ih]
    simp [List.append_assoc]

/-- The call of a row clears the alignments, whatever becomes of the row. -/
theorem exists_stateAfter_rowCalls (s : RenderState) (row : RowCall) :
    ∃ table, stateAfter c s row.calls =
      { s with table, alignments := [], tableLinks := s.tableLinks ++ row.links } := by
  rw [RowCall.calls, stateAfter_append, stateAfter_cellCalls]
  cases row.isHead <;> exact ⟨_, rfl⟩

/-- Rows gather a table and its link lines, and change nothing else. -/
theorem exists_stateAfter_flatMap_calls (s : RenderState) (rows : List RowCall) :
    ∃ table, stateAfter c s (rows.flatMap RowCall.calls) =
      { s with
        table
        alignments := if rows.isEmpty then s.alignments else []
        tableLinks := s.tableLinks ++ rows.flatMap RowCall.links } := by
  induction rows generalizing s with
  | nil => exact ⟨s.table, by simp⟩
  | cons row rows ih =>
    obtain ⟨first, hrow⟩ := exists_stateAfter_rowCalls (c := c) s row
    obtain ⟨table, hrows⟩ := ih (stateAfter c s row.calls)
    refine ⟨table, ?_⟩
    rw [List.flatMap_cons, stateAfter_append, hrows, hrow]
    simp

/-- The state after the calls of a table.  Nothing of the table is left, unless it fails: then the
link lines of its cells are.  If nothing was gathered before and the table does not fail, or its
cells have no link lines, all later calls answer as they do without the table. -/
theorem stateAfter_tableCalls (c : Conversion) (s : RenderState) (rows : List RowCall) :
    stateAfter c s (tableCalls rows) =
        { s with
          table := none
          alignments := if rows.isEmpty then s.alignments else []
          tableLinks :=
            if drawsTable c s rows then [] else s.tableLinks ++ rows.flatMap RowCall.links } ∧
      (s.table = none → s.alignments = [] → s.tableLinks = [] →
        (drawsTable c s rows ∨ ∀ row ∈ rows, row.links = []) →
          ∀ (later : List Callback) (call : Callback),
            call.run c (stateAfter c s (tableCalls rows ++ later)) =
              call.run c (stateAfter c s later)) := by
  have hstate : stateAfter c s (tableCalls rows) =
      { s with
        table := none
        alignments := if rows.isEmpty then s.alignments else []
        tableLinks :=
          if drawsTable c s rows then [] else s.tableLinks ++ rows.flatMap RowCall.links } := by
    obtain ⟨gathered, hrows⟩ := exists_stateAfter_flatMap_calls (c := c) s rows
    have hrun (s : RenderState) : Callback.table.run c s = table c s := rfl
    rw [tableCalls, stateAfter_append, stateAfter_cons, stateAfter_nil, drawsTable, hrun,
      state_table, hrows]
    -- whether the table is drawn or fails is all that its state depends on
    cases (table c _).1 <;> simp
  refine ⟨hstate, fun htable halignments hlinks hrows later call => ?_⟩
  -- the links that are kept are none again, as they were before the table
  have hnone : (if drawsTable c s rows then [] else s.tableLinks ++ rows.flatMap RowCall.links) =
      s.tableLinks := by
    rcases hrows with hdraws | hempty
    · rw [if_pos hdraws, hlinks]
    · rw [List.flatMap_eq_nil_iff.2 hempty, List.append_nil, hlinks, ite_self]
  have hsame : stateAfter c s (tableCalls rows) = s := by
    rw [hstate, hnone, ← htable, halignments, ite_self, ← halignments]
  rw [stateAfter_append, hsame]

/-- A table of one column, behind a table of two rows whose second one is skipped. -/
theorem stateAfter_tableCalls_drawn :
    let c := { Conversion.standard with maxTableWidth := 8 }
    let cell (x : Char) : CellCall := ⟨[.char x, .link ⟨['u'], none⟩], .left, false⟩
    let texts (x : Char) : Content := [.char x, .cellEnd]
    let first : List RowCall :=
      [⟨[cell 'a'], true, texts 'a'⟩, ⟨[cell 'b', cell 'c'], false, texts 'b' ++ texts 'c'⟩]
    let second : List RowCall := [⟨[cell 'd'], true, texts 'd'⟩]
    drawsTable c .initial first ∧
      stateAfter c .initial (tableCalls first) = .initial ∧
      Callback.table.run c
          (stateAfter c .initial (tableCalls first ++ second.flatMap RowCall.calls)) =
        Callback.table.run c (stateAfter c .initial (second.flatMap RowCall.calls)) := by
  intro c cell texts first second
  -- the row that is too long is left out, and the table is drawn
  have hdraws : drawsTable c .initial first := by decide +kernel
  have hcalls := stateAfter_tableCalls c .initial first
  refine ⟨hdraws, ?_, hcalls.2 rfl rfl rfl (.inl hdraws) _ .table⟩
  rw [hcalls.1, if_pos hdraws]
  rfl

/-- A table that is too wide leaves the link lines of its cells, and the next table writes them. -/
theorem writes_links_of_failed_table :
    let c := { Conversion.standard with maxTableWidth := 8 }
    let cell (x : Char) (links : Content) : CellCall := ⟨.char x :: links, .left, true⟩
    let link : Atom := .link ⟨['u'], some ['x']⟩
    let wide : List RowCall :=
      [⟨[cell 'a' [link], cell 'b' [], cell 'c' []], true,
        [.char 'a', .char 'x', .cellEnd, .char 'b', .cellEnd, .char 'c', .cellEnd]⟩]
    let next : List RowCall := [⟨[cell 'd' []], true, [.char 'd', .cellEnd]⟩]
    let links (calls : List Callback) : Option Content :=
      (Callback.table.run c (stateAfter c .initial calls)).1.toOption.map Content.linkLines
    drawsTable c .initial wide = false ∧
      (stateAfter c .initial (tableCalls wide)).tableLinks = [link] ∧
      links (next.flatMap RowCall.calls) = some [] ∧
      links (tableCalls wide ++ next.flatMap RowCall.calls) = some [link] := by
  decide +kernel

end Gemtext
