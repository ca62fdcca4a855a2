import Gemtext.Proofs.Render.Walk

/-!
# Properties that every call keeps

`Renderer.Keeps` says what the calls of a renderer have to satisfy for a property of contents and
an invariant of the state to hold of a whole walk.  It follows the walk down the tree once
(`Renderer.Keeps.of_renderIn`), so that such a property has only to be checked call by call.

Some properties hold of inline nodes only.  `Renderer.KeepsInline` asks the calls of these nodes
only, and relates the content with the states before and after it.
-/

namespace Gemtext

open Markdown Node in
/-- The calls of the renderer keep a property of contents and an invariant of its state, for trees
whose nodes all satisfy `p`.  Nothing is asked of the cells of a row, which are no content of their
own. -/
structure Renderer.Keeps {σ : Type} (r : Renderer σ) (p : Node → Bool) (inv : σ → Prop)
    (good : Content → Prop) : Prop where
  nil : good []
  append : ∀ {a b}, good a → good b → good (a ++ b)
  leaf : ∀ {kind children call s}, everywhere p (.mk kind children) →
    leafCall? r kind children = some call → inv s → good (call s).1 ∧ inv (call s).2
  opening : ∀ kind {s}, inv s → inv (openCall r kind s).2
  closing : ∀ tight {kind children content s}, everywhere p (.mk kind children) → good content →
    inv s → good (closeCall r tight kind children content s).1 ∧
      inv (closeCall r tight kind children content s).2
  item : ∀ kind level {content s}, good content → inv s →
    good (itemCall r kind content level s).1 ∧ inv (itemCall r kind content level s).2
  list : ∀ ordered level start {entries s}, (∀ e ∈ entries, good e.content ∧ good e.nested) →
    inv s → good (r.list entries ordered level start s).1 ∧
      inv (r.list entries ordered level start s).2
  cell : ∀ alignment isHead {content s}, good content → inv s →
    inv (r.tableCell content alignment isHead s).2
  row : ∀ kind cells {s}, inv s →
    good (rowCall r kind cells s).1 ∧ inv (rowCall r kind cells s).2
  table : ∀ {alignments rows s drawn s'}, everywhere p (.mk (.table alignments) rows) → inv s →
    r.table s = (.ok drawn, s') → good drawn ∧ inv s'

namespace Renderer.Keeps

open Markdown Node

variable {σ : Type} {r : Renderer σ} {p : Node → Bool} {inv : σ → Prop} {good : Content → Prop}
variable (keeps : r.Keeps p inv good)
include keeps

mutual

/-- What the calls keep, rendering a node keeps. -/
theorem of_renderIn {tight : Bool} {level : Nat} {node : Node} {s s' : σ} {content : Content}
    (hp : everywhere p node) (hs : inv s) (h : Yields (renderIn r tight level node) s content s') :
    good content ∧ inv s' := by
  obtain ⟨kind, children⟩ := node
  have hchildren := (everywhere_mk.1 hp).2
  cases rendered_of_yields h with
  | leaf hleaf hcall =>
    -- one call makes the content
    have hkept := keeps.leaf hp hleaf hs
    rwa [hcall] at hkept
  | container _ hinner hcall =>
    -- the children are rendered between two calls
    obtain ⟨hgood, hinv⟩ := of_renderAll hchildren (keeps.opening kind hs) hinner
    have hkept := keeps.closing tight hp hgood hinv
    rwa [hcall] at hkept
  | @list shape _ _ _ hitems hcall =>
    -- the list is made of the entries of its items
    obtain ⟨hgood, hinv⟩ := of_renderItems hchildren hs hitems
    have hkept := keeps.list shape.ordered (level + 1) shape.start hgood hinv
    rwa [hcall] at hkept
  | table htable hrows hcall hcontent =>
    -- the rows are gathered, and the table is drawn at the end
    obtain ⟨hgood, hinv⟩ := of_renderRows hchildren hs hrows
    obtain ⟨hdrawn, hinv⟩ := keeps.table (htable ▸ hp) hinv hcall
    rw [hcontent]
    exact ⟨keeps.append hgood hdrawn, hinv⟩

/-- So does rendering nodes one after the other. -/
theorem of_renderAll {level : Nat} {nodes : List Node} {s s' : σ} {content : Content}
    (hp : everywhereAll p nodes) (hs : inv s) (h : Yields (renderAll r level nodes) s content s') :
    good content ∧ inv s' := by
  cases nodes with
  | nil =>
    obtain ⟨rfl, rfl⟩ := yields_renderAll_nil.1 h
    exact ⟨keeps.nil, hs⟩
  | cons node nodes =>
    obtain ⟨hnode, hnodes⟩ := everywhereAll_cons.1 hp
    obtain ⟨first, s₁, hfirst, others, hothers, rfl⟩ := yields_renderAll_cons.1 h
    obtain ⟨hgood, hinv⟩ := of_renderIn hnode hs hfirst
    obtain ⟨hgoods, hinv⟩ := of_renderAll hnodes hinv hothers
    exact ⟨keeps.append hgood hgoods, hinv⟩

/-- So does rendering the items of a list. -/
theorem of_renderItems {tight : Bool} {level : Nat} {items : List Node} {s s' : σ}
    {entries : List ListEntry} (hp : everywhereAll p items) (hs : inv s)
    (h : Yields (renderItems r tight level items) s entries s') :
    (∀ e ∈ entries, good e.content ∧ good e.nested) ∧ inv s' := by
  cases items with
  | nil =>
    obtain ⟨rfl, rfl⟩ := yields_renderItems_nil.1 h
    exact ⟨by simp, hs⟩
  | cons item items =>
    obtain ⟨kind, children⟩ := item
    obtain ⟨hitem, hitems⟩ := everywhereAll_cons.1 hp
    obtain ⟨parts, s₁, hparts, content, s₂, hcall, others, hothers, rfl⟩ :=
      yields_renderItems_cons.1 h
    obtain ⟨⟨hcontent, hnested⟩, hinv⟩ := of_renderItemParts (everywhere_mk.1 hitem).2 hs hparts
    obtain ⟨hcontent, hinv⟩ := keeps.item kind level hcontent hinv
    rw [hcall] at hcontent hinv
    obtain ⟨hgood, hinv⟩ := of_renderItems hitems hinv hothers
    exact ⟨List.forall_mem_cons.2 ⟨⟨hcontent, hnested⟩, hgood⟩, hinv⟩

/-- So does rendering the children of an item. -/
theorem of_renderItemParts {tight : Bool} {level : Nat} {nodes : List Node} {s s' : σ}
    {parts : ListEntry} (hp : everywhereAll p nodes) (hs : inv s)
    (h : Yields (renderItemParts r tight level nodes) s parts s') :
    (good parts.content ∧ good parts.nested) ∧ inv s' := by
  cases nodes with
  | nil =>
    obtain ⟨rfl, rfl⟩ := yields_renderItemParts_nil.1 h
    exact ⟨⟨keeps.nil, keeps.nil⟩, hs⟩
  | cons node nodes =>
    obtain ⟨hnode, hnodes⟩ := everywhereAll_cons.1 hp
    obtain ⟨content, s₁, hcontent, others, hothers, rfl⟩ := yields_renderItemParts_cons.1 h
    obtain ⟨hgood, hinv⟩ := of_renderIn hnode hs hcontent
    obtain ⟨⟨hrest, hnested⟩, hinv⟩ := of_renderItemParts hnodes hinv hothers
    refine ⟨?_, hinv⟩
    unfold addPart
    split
    · exact ⟨hrest, keeps.append hgood hnested⟩
    · exact ⟨keeps.append hgood hrest, hnested⟩

/-- So does rendering the rows of a table. -/
theorem of_renderRows {alignments : List Alignment} {level : Nat} {rows : List Node} {s s' : σ}
    {content : Content} (hp : everywhereAll p rows) (hs : inv s)
    (h : Yields (renderRows r alignments level rows) s content s') : good content ∧ inv s' := by
  cases rows with
  | nil =>
    obtain ⟨rfl, rfl⟩ := yields_renderRows_nil.1 h
    exact ⟨keeps.nil, hs⟩
  | cons row rows =>
    obtain ⟨kind, children⟩ := row
    obtain ⟨hrow, hrows⟩ := everywhereAll_cons.1 hp
    obtain ⟨cells, s₁, hcells, row, s₂, hcall, others, hothers, rfl⟩ := yields_renderRows_cons.1 h
    have hinv := of_renderCells (everywhere_mk.1 hrow).2 hs hcells
    obtain ⟨hgood, hinv⟩ := keeps.row kind cells hinv
    rw [hcall] at hgood hinv
    obtain ⟨hgoods, hinv⟩ := of_renderRows hrows hinv hothers
    exact ⟨keeps.append hgood hgoods, hinv⟩

/-- So does rendering the cells of a row, whose contents go to the state. -/
theorem of_renderCells {isHead : Bool} {alignments : List Alignment} {level : Nat}
    {cells : List Node} {s s' : σ} {content : Content} (hp : everywhereAll p cells) (hs : inv s)
    (h : Yields (renderCells r isHead alignments level cells) s content s') : inv s' := by
  cases cells with
  | nil =>
    obtain ⟨-, rfl⟩ := yields_renderCells_nil.1 h
    exact hs
  | cons cell cells =>
    obtain ⟨kind, children⟩ := cell
    obtain ⟨hcell, hcells⟩ := everywhereAll_cons.1 hp
    obtain ⟨inner, s₁, hinner, cell, s₂, hcall, others, hothers, rfl⟩ :=
      yields_renderCells_cons.1 h
    obtain ⟨hgood, hinv⟩ := of_renderAll (everywhere_mk.1 hcell).2 hs hinner
    have hinv := keeps.cell (alignments.headD .left) isHead hgood hinv
    rw [hcall] at hinv
    exact of_renderCells hcells hinv hothers

end

end Renderer.Keeps

/-! ## Inline nodes -/

open Markdown Node in
/-- The calls of the renderer for inline nodes keep a relation between a content and the states
before and after it, for trees whose nodes all satisfy `p`. -/
structure Renderer.KeepsInline {σ : Type} (r : Renderer σ) (p : Node → Bool)
    (rel : σ → Content → σ → Prop) : Prop where
  nil : ∀ s, rel s [] s
  append : ∀ {s a s₁ b s₂}, rel s a s₁ → rel s₁ b s₂ → rel s (a ++ b) s₂
  leaf : ∀ {kind children call} s, everywhere p (.mk kind children) → kind.isInline →
    leafCall? r kind children = some call → rel s (call s).1 (call s).2
  closing : ∀ tight {kind children s content s₁}, everywhere p (.mk kind children) →
    kind.isInline → rel (openCall r kind s).2 content s₁ →
    rel s (closeCall r tight kind children content s₁).1
      (closeCall r tight kind children content s₁).2

namespace Renderer.KeepsInline

open Markdown Node

variable {σ : Type} {r : Renderer σ} {p : Node → Bool} {rel : σ → Content → σ → Prop}
variable (keeps : r.KeepsInline p rel)
include keeps

mutual

/-- What the calls for inline nodes keep, rendering one keeps. -/
theorem of_renderIn {tight : Bool} {level : Nat} {node : Node} {s s' : σ} {content : Content}
    (hp : everywhere p node) (hnode : node.isInline)
    (h : Yields (renderIn r tight level node) s content s') : rel s content s' := by
  obtain ⟨kind, children⟩ := node
  obtain ⟨hkind, hchildren⟩ := everywhere_mk.1 hnode
  cases rendered_of_yields h with
  | leaf hleaf hcall =>
    have hkept := keeps.leaf s hp hkind hleaf
    rwa [hcall] at hkept
  | container _ hinner hcall =>
    have hkept := keeps.closing tight hp hkind
      (of_renderAll (everywhere_mk.1 hp).2 hchildren hinner)
    rwa [hcall] at hkept
  -- lists and tables are no inline nodes
  | list hlist => simp [hlist, Node.kind, NodeKind.isInline] at hkind
  | table htable => simp [htable, Node.kind, NodeKind.isInline] at hkind

/-- So does rendering inline nodes one after the other. -/
theorem of_renderAll {level : Nat} {nodes : List Node} {s s' : σ} {content : Content}
    (hp : everywhereAll p nodes) (hnodes : everywhereAll (fun node => node.kind.isInline) nodes)
    (h : Yields (renderAll r level nodes) s content s') : rel s content s' := by
  cases nodes with
  | nil =>
    obtain ⟨rfl, rfl⟩ := yields_renderAll_nil.1 h
    exact keeps.nil _
  | cons node nodes =>
    obtain ⟨hnode, hnodes⟩ := everywhereAll_cons.1 hnodes
    obtain ⟨hfirst, hrest⟩ := everywhereAll_cons.1 hp
    obtain ⟨first, s₁, hcontent, others, hothers, rfl⟩ := yields_renderAll_cons.1 h
    exact keeps.append (of_renderIn hfirst hnode hcontent) (of_renderAll hrest hnodes hothers)

end

end Renderer.KeepsInline

end Gemtext
