import Gemtext.Proofs.Render.Frame

/-!
# Trees without tables

Only drawing a table can fail, and only cells, rows and tables work on what is gathered for a table.
So a tree without tables is rendered without error, and what is gathered for a table is left alone
(`leavesTable_renderIn`).
-/

namespace Gemtext

/-- The step ends without error and leaves alone what is gathered for a table. -/
def LeavesTable {α : Type} (x : Rendering RenderState α) (s : RenderState) : Prop :=
  ∃ a s', Yields x s a s' ∧ s.SameTable s'

namespace LeavesTable

variable {α β : Type} {s : RenderState}

theorem pure (a : α) (s : RenderState) : LeavesTable (pure a) s :=
  ⟨a, s, yields_pure.2 ⟨rfl, rfl⟩, .refl s⟩

theorem of_call {call : StateM RenderState α} (h : s.SameTable (call s).2) :
    LeavesTable (liftM call) s :=
  ⟨(call s).1, (call s).2, yields_liftM.2 rfl, h⟩

/-- Steps leave the table alone one after the other. -/
theorem bind {x : Rendering RenderState α} {f : α → Rendering RenderState β}
    (hx : LeavesTable x s) (hf : ∀ a s', LeavesTable (f a) s') : LeavesTable (x >>= f) s := by
  obtain ⟨a, s₁, hyields, hsame⟩ := hx
  obtain ⟨b, s₂, hyields', hsame'⟩ := hf a s₁
  exact ⟨b, s₂, yields_bind.2 ⟨a, s₁, hyields, hyields'⟩, hsame.trans hsame'⟩

end LeavesTable

namespace Markdown

/-- Whether nodes of the kind are tables. -/
def NodeKind.isTable : NodeKind → Bool
  | table _ => true
  | _ => false

/-- Whether neither the node nor any node below it is a table. -/
def Node.tableFree (node : Node) : Bool :=
  node.everywhere fun node => !node.kind.isTable

end Markdown

namespace Render

open Markdown Node

variable {c : Conversion}

mutual

/-- Nodes without tables below them leave the table alone. -/
theorem leavesTable_renderIn {tight : Bool} {level : Nat} {node : Node} (h : node.tableFree)
    (s : RenderState) : LeavesTable (renderIn (gemtextRenderer c) tight level node) s := by
  obtain ⟨kind, children⟩ := node
  obtain ⟨hkind, hchildren⟩ := everywhere_mk.1 h
  rw [everywhereAll_eq_all] at hchildren
  rcases kind_cases (gemtextRenderer c) kind children with
    ⟨call, hleaf⟩ | hcontainer | ⟨shape, rfl⟩ | ⟨alignments, rfl⟩
  · rw [renderIn_leaf hleaf]
    refine .of_call ?_
    rw [state_leafCall hleaf]
    exact .refl s
  · rw [renderIn_container hcontainer]
    refine .bind (.of_call (sameTable_openCall c s kind)) fun _ s₁ => ?_
    exact .bind (leavesTable_renderAll hchildren s₁) fun content s₂ =>
      .of_call (sameTable_closeCall c s₂ tight kind children content)
  · rw [renderIn]
    exact .bind (leavesTable_renderItems hchildren s) fun entries s₁ => .of_call (.refl s₁)
  · cases hkind

/-- So do nodes one after the other. -/
theorem leavesTable_renderAll {level : Nat} {nodes : List Node} (h : nodes.all tableFree)
    (s : RenderState) : LeavesTable (renderAll (gemtextRenderer c) level nodes) s := by
  cases nodes with
  | nil =>
    rw [renderAll]
    exact .pure _ s
  | cons node nodes =>
    rw [List.all_cons, Bool.and_eq_true] at h
    rw [renderAll]
    refine .bind (leavesTable_renderIn h.1 s) fun content s₁ => ?_
    exact .bind (leavesTable_renderAll h.2 s₁) fun others s₂ => .pure _ s₂

/-- So do the items of a list. -/
theorem leavesTable_renderItems {tight : Bool} {level : Nat} {items : List Node}
    (h : items.all tableFree) (s : RenderState) :
    LeavesTable (renderItems (gemtextRenderer c) tight level items) s := by
  cases items with
  | nil =>
    rw [renderItems]
    exact .pure _ s
  | cons item items =>
    obtain ⟨kind, children⟩ := item
    rw [List.all_cons, Bool.and_eq_true] at h
    have hchildren := (everywhere_mk.1 h.1).2
    rw [everywhereAll_eq_all] at hchildren
    rw [renderItems_cons]
    refine .bind (leavesTable_renderItemParts hchildren s) fun parts s₁ => ?_
    refine .bind (.of_call ?_) fun content s₂ => ?_
    · rw [state_itemCall]
      exact .refl s₁
    · exact .bind (leavesTable_renderItems h.2 s₂) fun entries s₃ => .pure _ s₃

/-- So do the children of an item. -/
theorem leavesTable_renderItemParts {tight : Bool} {level : Nat} {nodes : List Node}
    (h : nodes.all tableFree) (s : RenderState) :
    LeavesTable (renderItemParts (gemtextRenderer c) tight level nodes) s := by
  cases nodes with
  | nil =>
    rw [renderItemParts]
    exact .pure _ s
  | cons node nodes =>
    rw [List.all_cons, Bool.and_eq_true] at h
    rw [renderItemParts]
    refine .bind (leavesTable_renderIn h.1 s) fun content s₁ => ?_
    refine .bind (leavesTable_renderItemParts h.2 s₁) fun others s₂ => ?_
    split <;> exact .pure _ s₂

end

end Render

end Gemtext
