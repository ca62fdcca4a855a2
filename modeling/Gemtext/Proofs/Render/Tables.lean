import Gemtext.Proofs.Render.Frame
import Gemtext.Proofs.Table.Lines
import Gemtext.Proofs.Table.Operations

/-!
# The tables of the renderer

The renderer begins every table with a border and the glyphs of one of two styles, and adding a row
changes neither.  So every table that is gathered at any time is `Table.Framed`
(`keeps_framed`), and each line of its drawing begins with a visible glyph.
-/

namespace Gemtext

namespace Table

/-- The table is drawn with a border, and its glyphs are visible and no backticks. -/
structure Framed (t : Table) : Prop where
  border : t.decorations.border
  glyphs : ∀ glyph ∈ t.glyphs.toList, isBlank glyph = false ∧ glyph ≠ '`'

/-- The two tables are drawn with the same rules and the same glyphs. -/
structure SameStyle (t t' : Table) : Prop where
  decorations : t'.decorations = t.decorations
  glyphs : t'.glyphs = t.glyphs

variable {t t₁ t₂ : Table}

/-- A table in the same style is framed as well. -/
theorem Framed.of_sameStyle (h : SameStyle t t₁) (ht : t.Framed) : t₁.Framed where
  border := by
    rw [h.decorations]
    exact ht.border
  glyphs := by
    rw [h.glyphs]
    exact ht.glyphs

/-- A framed table has a border that is visible. -/
theorem Framed.bordered (h : t.Framed) : t.Bordered where
  border := h.border
  newline_not_mem hmem := absurd (h.glyphs '\n' hmem).1 (by decide)

/-- Adding a row keeps the style. -/
theorem sameStyle_addRow {row : List Text} (h : t.addRow row = .ok t₁) : SameStyle t t₁ := by
  obtain ⟨-, rfl⟩ := map_fitColumns_eq_ok.1 h
  exact ⟨rfl, rfl⟩

end Table

/-- The glyphs of the two styles that the renderer draws with. -/
theorem Glyphs.visible_tableStyle {c : Conversion} {glyphs : Glyphs}
    (h : Glyphs.named (Render.tableStyle c) = .ok glyphs) :
    ∀ glyph ∈ glyphs.toList, isBlank glyph = false ∧ glyph ≠ '`' := by
  have hascii : Glyphs.named "default".toList = .ok .ascii := rfl
  have hlight : Glyphs.named "light".toList =
      .ok ⟨'─', '│', '┌', '┐', '└', '┘', '├', '┤', '┬', '┴', '┼', '═', '╞', '╡', '╪'⟩ := rfl
  -- there are two styles, and each is a list of glyphs
  have hcheck {glyphs : Glyphs}
      (hall : glyphs.toList.all fun glyph => !isBlank glyph && glyph != '`') :
      ∀ glyph ∈ glyphs.toList, isBlank glyph = false ∧ glyph ≠ '`' := by
    simpa using hall
  unfold Render.tableStyle at h
  split at h
  · rw [hascii] at h
    cases h
    exact hcheck (by decide)
  · rw [hlight] at h
    cases h
    exact hcheck (by decide)

/-- Two steps in a row succeed if each of them does. -/
theorem exists_ok_of_bind {ε α β : Type} {x : Except ε α} {f : α → Except ε β} {b : β}
    (h : x >>= f = .ok b) : ∃ a, x = .ok a ∧ f a = .ok b := by
  cases x with
  | error cause => cases h
  | ok a => exact ⟨a, rfl, h⟩

/-- The table that is gathered, if there is one, is drawn with a border of visible glyphs. -/
def RenderState.FramedTable (s : RenderState) : Prop :=
  ∀ t, s.table = some t → t.Framed

namespace Render

open Markdown Node

variable {c : Conversion} {s : RenderState}

/-- What is written for a drawn table: a block of preformatted lines, and behind it the link lines
of the cells. -/
def drawnTable (c : Conversion) (drawn : Text) (links : Content) : Content :=
  preformatted c.tableTag drawn ++
    if links.isEmpty then [] else links ++ Content.ofText ['\n', '\n']

/-- There is a table for every header that fits its alignments. -/
theorem exists_startTable {header : List Text} {alignments : List Alignment}
    (h : header.length = alignments.length) : ∃ t, startTable c header alignments = .ok t := by
  obtain ⟨glyphs, hglyphs⟩ : ∃ glyphs, Glyphs.named (tableStyle c) = .ok glyphs := by
    unfold tableStyle
    cases c.asciiTable <;> exact ⟨_, rfl⟩
  simp [startTable, Table.setStyle, hglyphs, Table.setHeader, Table.setAlignments,
    Table.setVerticalAlignments, Table.fitColumns, Table.setMaxWidth, Table.empty, Except.map,
    bind, Except.bind, h]

/-- A table that is begun has the header and its settings, and is empty otherwise. -/
theorem startTable_eq_ok {header : List Text} {alignments : List Alignment} {t : Table}
    (h : startTable c header alignments = .ok t) :
    ∃ glyphs, Glyphs.named (tableStyle c) = .ok glyphs ∧
      t = { Table.empty c.measure with
        header
        columnCount := some header.length
        alignments := some alignments
        verticalAlignments := some (header.map fun _ => .middle)
        maxWidth := c.maxTableWidth
        glyphs } := by
  unfold startTable at h
  obtain ⟨styled, hstyle, h⟩ := exists_ok_of_bind h
  obtain ⟨headed, hheader, h⟩ := exists_ok_of_bind h
  obtain ⟨aligned, halign, hvertical⟩ := exists_ok_of_bind h
  unfold Table.setStyle at hstyle
  cases hglyphs : Glyphs.named (tableStyle c) with
  | error cause =>
    rw [hglyphs] at hstyle
    cases hstyle
  | ok glyphs =>
    rw [hglyphs] at hstyle
    obtain rfl := Except.ok.inj hstyle
    -- the steps behind the choice of the style put something into the table
    obtain ⟨-, rfl⟩ := Table.map_fitColumns_eq_ok.1 hheader
    obtain ⟨-, rfl⟩ := Table.map_fitColumns_eq_ok.1 halign
    obtain ⟨-, rfl⟩ := Table.map_fitColumns_eq_ok.1 hvertical
    refine ⟨glyphs, rfl, ?_⟩
    simp only [List.length_map, Table.setMaxWidth]

/-- A table begins with a border, in the style of the options. -/
theorem framed_startTable {header : List Text} {alignments : List Alignment} {t : Table}
    (h : startTable c header alignments = .ok t) : t.Framed := by
  obtain ⟨glyphs, hglyphs, rfl⟩ := startTable_eq_ok h
  exact ⟨rfl, Glyphs.visible_tableStyle hglyphs⟩

theorem FramedTable.of_sameTable {s' : RenderState} (h : s.SameTable s')
    (hs : s.FramedTable) : s'.FramedTable := by
  rwa [RenderState.FramedTable, h.table]

/-- A row keeps the table framed. -/
theorem framed_rowCall (kind : NodeKind) (cells : Content) (hs : s.FramedTable) :
    (rowCall (gemtextRenderer c) kind cells s).2.FramedTable := by
  unfold rowCall
  split
  · -- a header begins a table or leaves none
    intro t ht
    show t.Framed
    cases hstart : startTable c (cellTexts cells) s.alignments with
    | error cause => simp [gemtextRenderer, tableHead, hstart] at ht
    | ok started =>
      obtain rfl : started = t := by simpa [gemtextRenderer, tableHead, hstart] using ht
      exact framed_startTable hstart
  · intro t ht
    -- any other row is added, or refused
    obtain ⟨before, hbefore, hrow⟩ := Option.map_eq_some_iff.1 (show s.table.map _ = some t from ht)
    have hframed := hs before hbefore
    split at hrow
    · rename_i longer hlonger
      rw [← hrow]
      exact hframed.of_sameStyle (Table.sameStyle_addRow hlonger)
    · rwa [← hrow]

/-- Every call of the renderer leaves a table framed. -/
theorem keeps_framed (c : Conversion) :
    (gemtextRenderer c).Keeps (fun _ => true) RenderState.FramedTable (fun _ => True) where
  nil := trivial
  append _ _ := trivial
  leaf _ hcall hs := ⟨trivial, by rwa [state_leafCall hcall]⟩
  opening kind s hs := FramedTable.of_sameTable (sameTable_openCall c s kind) hs
  closing tight kind children content s _ _ hs :=
    ⟨trivial, FramedTable.of_sameTable (sameTable_closeCall c s tight kind children content) hs⟩
  item kind level _ _ _ hs := ⟨trivial, by rwa [state_itemCall]⟩
  list _ _ _ _ _ _ hs := ⟨trivial, hs⟩
  cell _ _ _ _ _ hs := hs
  row kind cells _ hs := ⟨trivial, framed_rowCall kind cells hs⟩
  table {_ _ s drawn s'} _ hs h := by
    refine ⟨trivial, fun t ht => ?_⟩
    -- no table is left when one was drawn
    have hnone : (table c s).2.table = none := by
      unfold table
      split
      · assumption
      · split <;> rfl
    rw [show table c s = (.ok drawn, s') from h] at hnone
    rw [hnone] at ht
    cases ht

/-- A table that is drawn without error was none, or each of its lines begins visibly. -/
theorem table_eq_ok (hs : s.FramedTable) {drawn : Content} {s' : RenderState}
    (h : table c s = (.ok drawn, s')) :
    drawn = [] ∨ ∃ text, drawn = drawnTable c text s.tableLinks ∧
      ∀ line ∈ Text.splitOn '\n' text,
        line = [] ∨ ∃ x rest, line = x :: rest ∧ isBlank x = false ∧ x ≠ '`' := by
  unfold table at h
  split at h
  · cases h
    exact .inl rfl
  · rename_i t ht
    have hframed := hs t ht
    split at h
    · cases h
    · rename_i text htext
      cases h
      -- every line of a drawn table begins with a glyph
      refine .inr ⟨text, rfl, fun line hline => ?_⟩
      refine (Table.exists_glyph_of_mem_splitOn_draw hframed.bordered htext hline).imp_right ?_
      rintro ⟨glyph, rest, rfl, hglyph⟩
      exact ⟨glyph, rest, rfl, hframed.glyphs glyph hglyph⟩

end Render

end Gemtext
