import Gemtext.Proofs.Render.Invariant
import Gemtext.Render.Gemtext

/-!
# What the calls leave alone

Only cells, rows and tables work on the part of the state that gathers a table
(`RenderState.SameTable`).  So inline nodes, which are never one of these, leave it alone
(`sameTable_renderAll`).  On the other side, they leave the footnotes alone.
-/

namespace Gemtext

/-- The two states agree on what is gathered for a table. -/
structure RenderState.SameTable (s s' : RenderState) : Prop where
  table : s'.table = s.table
  alignments : s'.alignments = s.alignments
  tableLinks : s'.tableLinks = s.tableLinks

namespace RenderState.SameTable

variable {s s₁ s₂ : RenderState}

theorem refl (s : RenderState) : SameTable s s := ⟨rfl, rfl, rfl⟩

theorem trans (h₁ : SameTable s s₁) (h₂ : SameTable s₁ s₂) : SameTable s s₂ :=
  ⟨h₂.table.trans h₁.table, h₂.alignments.trans h₁.alignments, h₂.tableLinks.trans h₁.tableLinks⟩

end RenderState.SameTable

namespace Render

open RenderState Markdown Node

variable {c : Conversion} {content : Content} {s : RenderState}

/-- Footnotes leave the table alone. -/
theorem sameTable_flushFootnotes (limit : Nat) : SameTable s (flushFootnotes c limit s).2 := by
  unfold flushFootnotes
  split <;> exact ⟨rfl, rfl, rfl⟩

/-- So does a link. -/
theorem sameTable_link (url inner : Text) : SameTable s (link c url content inner s).2 := by
  unfold link
  dsimp only
  split
  · exact .refl s
  · split <;> exact ⟨rfl, rfl, rfl⟩

/-- So does a paragraph. -/
theorem sameTable_paragraph : SameTable s (paragraph c content s).2 := by
  unfold paragraph
  dsimp only
  split
  · exact ⟨rfl, rfl, rfl⟩
  · split
    · exact sameTable_flushFootnotes s.footnotes.pending.length
    · exact .refl s

/-- So does a heading. -/
theorem sameTable_heading (level : Nat) : SameTable s (heading c content level s).2 := by
  unfold heading
  split
  · have hmark : SameTable s { s with headingMark := 0 } := ⟨rfl, rfl, rfl⟩
    exact hmark.trans (sameTable_flushFootnotes s.headingMark)
  · exact .refl s

/-- A leaf leaves the whole state alone. -/
theorem state_leafCall {kind : NodeKind} {children : List Node} {call : StateM RenderState Content}
    (h : leafCall? (gemtextRenderer c) kind children = some call) (s : RenderState) :
    (call s).2 = s := by
  cases kind <;> cases h <;> rfl

/-- Opening a node leaves the table alone. -/
theorem sameTable_openCall (c : Conversion) (s : RenderState) (kind : NodeKind) :
    SameTable s (openCall (gemtextRenderer c) kind s).2 := by
  cases kind <;> exact ⟨rfl, rfl, rfl⟩

/-- So does closing it. -/
theorem sameTable_closeCall (c : Conversion) (s : RenderState) (tight : Bool) (kind : NodeKind)
    (children : List Node) (content : Content) :
    SameTable s (closeCall (gemtextRenderer c) tight kind children content s).2 := by
  cases kind with
  | paragraph =>
    cases tight with
    | true => exact .refl s
    | false => exact sameTable_paragraph
  | heading depth => exact sameTable_heading depth
  | link url => exact sameTable_link url _
  | _ => exact .refl s

/-- An item leaves the whole state alone. -/
theorem state_itemCall (c : Conversion) (s : RenderState) (kind : NodeKind) (content : Content)
    (level : Nat) :
    (itemCall (gemtextRenderer c) kind content level s).2 = s := by
  cases kind <;> rfl

/-- The call that draws a table takes the table, and the link lines unless it fails. -/
theorem state_table (c : Conversion) (s : RenderState) :
    (table c s).2 =
      { s with
        table := none
        tableLinks :=
          match (table c s).1 with
          | .ok _ => []
          | .error _ => s.tableLinks } := by
  rw [table]
  cases htable : s.table with
  | none => simp
  | some t => cases hdraw : t.draw <;> simp [hdraw]

/-! ## The footnotes -/

/-- Opening a node keeps the footnotes. -/
theorem footnotes_openCall (c : Conversion) (s : RenderState) (kind : NodeKind) :
    (openCall (gemtextRenderer c) kind s).2.footnotes = s.footnotes := by
  cases kind <;> rfl

/-- So does a row. -/
theorem footnotes_rowCall (c : Conversion) (s : RenderState) (kind : NodeKind) (cells : Content) :
    (rowCall (gemtextRenderer c) kind cells s).2.footnotes = s.footnotes := by
  unfold rowCall
  split <;> rfl

/-- So does a table. -/
theorem footnotes_table {drawn : Content} {s' : RenderState}
    (h : (gemtextRenderer c).table s = (.ok drawn, s')) : s'.footnotes = s.footnotes := by
  have hstate := state_table c s
  rw [show table c s = (.ok drawn, s') from h] at hstate
  rw [show s' = _ from hstate]

/-! ## Inline nodes -/

/-- Inline nodes are none of the nodes that work on a table. -/
theorem keepsInline_sameTable (c : Conversion) :
    (gemtextRenderer c).KeepsInline (fun _ => true) fun s _ s' => SameTable s s' where
  nil := .refl
  append := .trans
  leaf s _ _ hcall := by
    rw [state_leafCall hcall]
    exact .refl s
  closing tight {kind children s content s₁} _ _ h :=
    ((sameTable_openCall c s kind).trans h).trans
      (sameTable_closeCall c s₁ tight kind children content)

/-- Inline nodes leave the table alone. -/
theorem sameTable_renderAll {level : Nat} {nodes : List Node} {s s' : RenderState}
    {content : Content} (hnodes : nodes.all isInline)
    (h : Yields (renderAll (gemtextRenderer c) level nodes) s content s') : SameTable s s' := by
  refine (keepsInline_sameTable c).of_renderAll (everywhereAll_true nodes) ?_ h
  rw [everywhereAll_eq_all]
  exact hnodes

end Render

end Gemtext
