import Gemtext.Standard.Library
import Gemtext.Proofs.Layout.Seams
import Gemtext.Proofs.Render.Boundaries
import Gemtext.Proofs.Render.Failure
import Gemtext.Proofs.Render.Reached
import Gemtext.Proofs.Table.Rectangle

/-!
# Drawn tables

A table of a document is rendered from its own node: whatever was rendered before it, its block of
preformatted lines shows a new table with the texts of its cells, and behind it are the link lines
of all its cells (`exists_drawn_table`).  The layout leaves that block as it is, since all of its
lines begin visibly (`upright_fencedLines`).
-/

namespace Gemtext

namespace Render

open Content Layout Markdown Node Text

variable {c : Conversion}

/-- The lines of a block of preformatted lines. -/
def fencedLines (tag body : Text) : Text :=
  codeFence ++ tag ++ '\n' :: body ++ '\n' :: codeFence

/-- The lines of a block stand in the text with a blank line behind them. -/
theorem preformatted_eq (tag body : Text) :
    preformatted tag body = ofText (fencedLines tag body ++ ['\n'] ++ ['\n']) := by
  simp [preformatted, fencedLines]

/-- Every line of a table of the grid begins with a glyph. -/
theorem exists_glyph_of_mem_splitOn_toTable {g : Grid} (hheader : g.header ≠ []) {glyphs : Glyphs}
    (hglyphs : Glyphs.named (tableStyle c) = .ok glyphs) {alignments : List Alignment}
    {drawn line : Text} (hdraw : (g.toTable c glyphs alignments).draw = .ok drawn)
    (hline : line ∈ splitOn '\n' drawn) :
    ∃ glyph rest, line = glyph :: rest ∧ isBlank glyph = false := by
  have hframed : (g.toTable c glyphs alignments).Framed :=
    ⟨rfl, Glyphs.visible_tableStyle hglyphs⟩
  rw [Table.draw_eq_ok, if_neg fun hnone => hheader hnone.1] at hdraw
  obtain ⟨widths, hwidths, rfl⟩ := hdraw
  have hlength : widths.length = g.header.length :=
    Table.length_of_columnWidths (fun fixed hfixed => by cases hfixed) hwidths
  have hcolumns : widths ≠ [] := by
    rw [← List.length_pos_iff, hlength]
    exact List.length_pos_iff.2 hheader
  -- a grid with a header has columns, so some line is drawn
  have hlines := Table.drawLines_ne_nil (t := g.toTable c glyphs alignments) List.mem_cons_self
    hheader hcolumns
  rw [splitOn_joinWith hlines fun _ =>
    Table.newline_not_mem_drawLines hframed.bordered.newline_not_mem] at hline
  obtain ⟨glyph, rest, rfl, hmem⟩ := Table.exists_glyph_of_mem_drawLines hframed.bordered hline
  exact ⟨glyph, rest, rfl, (hframed.glyphs glyph hmem).1⟩

/-- If the lines of the body begin visibly, so do all lines of the block, fences included. -/
theorem upright_fencedLines {tag body : Text} (htag : '\n' ∉ tag)
    (hbody : ∀ line ∈ splitOn '\n' body, ∃ c rest, line = c :: rest ∧ isBlank c = false) :
    (fencedLines tag body).Upright := by
  have hfence : '\n' ∉ codeFence := by decide
  have hopen : '\n' ∉ codeFence ++ tag := by simp [hfence, htag]
  -- the lines of the body stand between the two fences
  have hsplit : splitOn '\n' (fencedLines tag body) =
      (codeFence ++ tag) :: (splitOn '\n' body ++ [codeFence]) := by
    rw [fencedLines, List.append_assoc, List.cons_append, splitOn_piece_cons hopen,
      splitOn_append_cons, splitOn_of_not_mem hfence]
  constructor
  · intro line hline
    rw [hsplit, List.mem_cons, List.mem_append, List.mem_singleton] at hline
    rcases hline with rfl | hline | rfl
    · exact ⟨'`', _, rfl, by decide⟩
    · exact hbody line hline
    · exact ⟨'`', _, rfl, by decide⟩
  · refine ⟨codeFence ++ tag ++ '\n' :: body ++ '\n' :: ['`', '`'], '`', ?_, by decide⟩
    simp [fencedLines, codeFence]

/-- The layout leaves such a block as it is, wherever it stands outside a paragraph and behind an
ended line. -/
theorem holdsLines_layout {tag body : Text} (hblock : (fencedLines tag body).Upright)
    {before : Content} (heven : Even (before.count .boundary))
    (hended : before.layoutParagraphs.resolveHardBreaks.Ended) (behind trailing : Content) :
    (fencedLines tag body).HoldsLines
      (layout (before ++ preformatted tag body ++ behind) trailing) := by
  have hplain (s : Text) : .boundary ∉ ofText s := by simp [ofText]
  -- the block has no boundary, so the layout is outside a region behind it
  have heven' : Even ((preformatted tag body).count .boundary) := by
    rw [preformatted_eq, List.count_eq_zero.2 (hplain _)]
    exact ⟨0, rfl⟩
  have hresolve (s : Text) : (ofText s).resolveHardBreaks = ofText s := by
    simp [resolveHardBreaks, ofText]
  rw [layout, List.append_assoc, layoutParagraphs_append heven, layoutParagraphs_append heven',
    preformatted_eq, layoutParagraphs_of_not_mem (hplain _), resolveHardBreaks, List.map_append,
    List.map_append, ← resolveHardBreaks, ← resolveHardBreaks, ← resolveHardBreaks, hresolve]
  have hpasses := holdsLines_passes hblock hended
    (.char '\n' :: (behind.layoutParagraphs.resolveHardBreaks ++ trailing))
  simpa [ofText] using hpasses

/-- A table with a cell in its header is rendered from its own node, whatever a walk that ends
without error has rendered before it.  What it shows is a new table in the configured style: its
header and its rows are the trimmed texts that a reader sees in the cells, without the rows that
have another number of cells than the header.  Behind it are the link lines of all cells, those of
the rows left out included.  And where the block of its lines stands behind an ended line, the
layout leaves every line of it as it is.

No table of the tree may stand in a cell of another one, as in tables that are read, whose cells
hold inline content: the inner table would find the alignments of the cells to its left. -/
theorem exists_drawn_table {level : Nat} {tree : Node} {body : Content} {final : RenderState}
    (happart : tree.tablesApart)
    (hwalk : (tree.render (gemtextRenderer c) level).run .initial = (.ok body, final))
    {tight : Bool} {inner : Nat} {columns : List ColumnAlignment} {head : Node} {rows : List Node}
    {s : RenderState}
    (hreach : Reaches (gemtextRenderer c) (.node false level tree .initial)
      (.node tight inner (mk (.table columns) (head :: rows)) s))
    (hshape : fitsTable (mk (.table columns) (head :: rows))) :
    let alignments := columns.map ColumnAlignment.toAlignment
    let cells := tableContents c alignments inner s (head :: rows)
    let grid := Grid.ofRows (cells.map fun row => row.map fun cell => cell.visibleText.trim)
    let links := cells.flatten.flatMap linkLines
    ∃ glyphs drawn after,
      Glyphs.named (tableStyle c) = .ok glyphs ∧
      (grid.toTable c glyphs (columnAlignments alignments head.children.length)).draw = .ok drawn ∧
      (renderIn (gemtextRenderer c) tight inner (mk (.table columns) (head :: rows))).run s =
        (.ok (preformatted c.tableTag drawn ++
          if links.isEmpty then [] else links ++ ofText ['\n', '\n']), after) ∧
      ('\n' ∉ c.tableTag → ∀ before behind trailing : Content, Even (before.count .boundary) →
        before.layoutParagraphs.resolveHardBreaks.Ended →
          (fencedLines c.tableTag drawn).HoldsLines
            (layout (before ++ preformatted c.tableTag drawn ++ behind) trailing)) := by
  intro alignments cells grid links
  obtain ⟨hhead, hcells, hfree, hrows⟩ := fitsTable_cons.1 hshape
  -- whatever was rendered before has left no alignments and no links of another table
  have hrested : Rested s := rested_of_reaches_table happart ⟨⟨rfl, rfl⟩, rfl⟩ hreach
  obtain ⟨glyphs, s₁, hglyphs, hyields, hempty, htable, hlinks⟩ := exists_yields_header_renderRows
    (c := c) alignments inner hhead hfree hrows hrested.alignments
  obtain ⟨content, after, hends⟩ := hreach.ends ⟨body, final, hwalk⟩
  have hheader : grid.header ≠ [] := by
    refine List.ne_nil_of_length_pos ?_
    rw [show grid.header = rowTexts c _ alignments inner s head.children from
      (rowTexts_eq ..).symm, length_rowTexts]
    exact List.length_pos_iff.2 hcells
  rw [gridRows_eq] at htable
  have hrun := run_renderIn_table tight hyields
  cases hdraw : (grid.toTable c glyphs (columnAlignments alignments head.children.length)).draw with
  | error cause =>
    -- a table that cannot be drawn would have ended the walk
    rw [Yields, hrun, show (gemtextRenderer c).table s₁ = (.error cause, _) from
      table_of_draw_eq_error htable hdraw] at hends
    cases hends
  | ok drawn =>
    have hcall : (gemtextRenderer c).table s₁ = _ := table_of_draw_eq_ok htable hdraw
    rw [hlinks, hrested.tableLinks, List.nil_append] at hcall
    refine ⟨glyphs, drawn, _, hglyphs, hdraw, hrun.trans hcall,
      fun htag before behind trailing heven hended => ?_⟩
    exact holdsLines_layout (upright_fencedLines htag fun line hline =>
      exists_glyph_of_mem_splitOn_toTable hheader hglyphs hdraw hline) heven hended behind trailing

/-- A table in a list item behind a paragraph with a footnote: the row that is left out of it has
the link line. -/
theorem exists_drawn_table_item :
    let c := { Conversion.standard with links := .paragraph }
    let cell (x : Char) (below : List Node) := Node.mk .tableCell (.mk (.text [x]) [] :: below)
    let head := Node.mk (.tableRow true) [cell 'a' []]
    let rows := [Node.mk (.tableRow false) [cell 'b' [.mk (.image ['v']) []], cell 'c' []],
      Node.mk (.tableRow false) [cell 'd' []]]
    let table := Node.mk (.table [.right]) (head :: rows)
    let paragraph := Node.mk .paragraph [.mk (.link ['u']) [], .mk (.text ['x']) []]
    let list := Node.mk (.list ⟨false, true, 1⟩) [.mk .item [table]]
    let tree := Node.mk .document [paragraph, list]
    let s := { RenderState.initial with footnotes := ⟨1, []⟩ }
    let grid : Grid := ⟨[['a']], [["b[IMG]".toList, ['c']], [['d']]]⟩
    let link : Atom := .link ⟨['v'], some "[IMG]".toList⟩
    tree.tablesApart ∧ fitsTable table ∧
    Reaches (gemtextRenderer c) (.node false 0 tree .initial) (.node true 1 table s) ∧
    ∃ glyphs drawn after,
      Glyphs.named (tableStyle c) = .ok glyphs ∧
      (grid.toTable c glyphs [.right]).draw = .ok drawn ∧
      (renderIn (gemtextRenderer c) true 1 table).run s =
        (.ok (preformatted c.tableTag drawn ++ [link, .char '\n', .char '\n']), after) ∧
      (fencedLines c.tableTag drawn).HoldsLines
        (layout (ofText ['x', '\n'] ++ preformatted c.tableTag drawn ++ [link]) []) := by
  intro c cell head rows table paragraph list tree s grid link
  have happart : tree.tablesApart := by decide
  -- the last row is too short, and the table is drawn without it
  have hshape : fitsTable table := by decide
  have hparagraph : Yields (renderIn (gemtextRenderer c) false 0 paragraph) .initial
      (paragraphRegion (ofText "u[1]x".toList) ++
        paragraphRegion [.link ⟨['u'], some "1: u".toList⟩]) s := by
    with_unfolding_all rfl
  -- the item stands behind the paragraph, whose link has been numbered
  have hreach : Reaches (gemtextRenderer c) (.node false 0 tree .initial) (.node true 1 table s) :=
    .head (.children rfl) (.head (.others hparagraph) (.head .first (.head .list
      (.head .item (.head .part .refl)))))
  have hok : ((tree.render (gemtextRenderer c) 0).run .initial).1.isOk := by decide +kernel
  have hcells : tableContents c ([ColumnAlignment.right].map ColumnAlignment.toAlignment) 1 s
      (head :: rows) = [[[.char 'a']], [[.char 'b', link], [.char 'c']], [[.char 'd']]] := by
    decide +kernel
  have hends {p : Except TableError Content × RenderState} (h : p.1.isOk) :
      ∃ body final, p = (.ok body, final) := by
    obtain ⟨_ | body, final⟩ := p
    · cases h
    · exact ⟨body, final, rfl⟩
  obtain ⟨body, final, hwalk⟩ := hends hok
  obtain ⟨glyphs, drawn, after, hglyphs, hdraw, hrun, hlayout⟩ :=
    exists_drawn_table happart hwalk hreach hshape
  rw [hcells] at hdraw hrun
  exact ⟨happart, hshape, hreach, glyphs, drawn, after, hglyphs, hdraw, hrun,
    hlayout (by decide) _ _ _ (by decide) (.inr ⟨ofText ['x'], by decide⟩)⟩

end Render

end Gemtext
