import Gemtext.Proofs.Layout.Shown
import Gemtext.Proofs.Markdown.Shape

/-!
# The outline of nested lists

Gemtext has lists, but no lists within lists.  `Node.outline` spells a list and all lists within it
as one list of items, each of them before the items of the lists within it, and each with the number
of lists around it, its number or box, and the lines of its text.

Whether the lists are tight plays no part in this: lists that are the same once they are `loosened`
have the same outline (`outline_loosened`).  The outline of a list stands in one piece within that
of a list around it (`outline_isInfix`).
-/

namespace Gemtext

open Text

namespace Markdown

/-- An item of a list, apart from the lists within it. -/
structure OutlineItem where
  /-- How many lists are around it. -/
  depth : Nat
  /-- Its number, if the list is ordered. -/
  number : Option Nat
  /-- Whether its box is checked, if it has one. -/
  checked : Option Bool
  /-- The lines of its text that are not blank, trimmed. -/
  lines : List Text
  deriving DecidableEq, Repr

/-- The number of the first item, if the list is ordered. -/
def ListShape.number? (shape : ListShape) : Option Nat :=
  if shape.ordered then some shape.start else none

namespace NodeKind

/-- Whether nodes of the kind are text or end a line of it. -/
def isProse : NodeKind → Bool
  | text _ | softBreak | lineBreak => true
  | _ => false

/-- Whether nodes of the kind may stand in an item of an outline. -/
def isItemPart : NodeKind → Bool
  | paragraph | list _ => true
  | _ => false

/-- Whether the box of the item is checked, if it has one. -/
def checked? : NodeKind → Option Bool
  | taskItem symbol => some symbol.isSome
  | _ => none

/-- The kind with loose in place of tight lists. -/
def loosened : NodeKind → NodeKind
  | list shape => list { shape with tight := false }
  | kind => kind

end NodeKind

namespace Node

/-! ## Outlines -/

/-- The text of nodes as it was written, with a newline for each line break. -/
def sourceText (nodes : List Node) : Text :=
  nodes.flatMap fun node =>
    match node.kind with
    | .text text => text
    | .softBreak | .lineBreak => ['\n']
    | _ => []

/-- The lines of the paragraphs among the children of an item. -/
def sourceLines (children : List Node) : List Text :=
  children.flatMap fun child =>
    match child.kind with
    | .paragraph => trimmedLines (splitOn '\n' (sourceText child.children))
    | _ => []

mutual

/-- The items of a list and of the lists within it, with `depth` lists around the first of them. -/
def outline (depth : Nat) : Node → List OutlineItem
  | mk kind children =>
    match kind with
    | .list shape => outlineItems depth shape.number? children
    | _ => []

/-- The outline of items, the first of which may have a number. -/
def outlineItems (depth : Nat) (number : Option Nat) : List Node → List OutlineItem
  | [] => []
  | mk kind children :: items =>
    ⟨depth, number, kind.checked?, sourceLines children⟩ :: outlineNested depth children ++
      outlineItems depth (number.map (· + 1)) items

/-- The outlines of the lists among the children of an item. -/
def outlineNested (depth : Nat) : List Node → List OutlineItem
  | [] => []
  | node :: nodes => outline (depth + 1) node ++ outlineNested depth nodes

end

/-- Whether the children of the node are of the kinds that an outline is made of: lists hold items,
items hold paragraphs and lists, and paragraphs hold text and line breaks. -/
def fitsOutline : Node → Bool
  | mk kind children =>
    match kind with
    | .list _ => children.all (·.kind.isItem)
    | .item | .taskItem _ => children.all (·.kind.isItemPart)
    | .paragraph => children.all (·.kind.isProse)
    | kind => kind.isProse

/-- Whether an outline tells all of the tree. -/
def isOutlined (node : Node) : Bool :=
  everywhere fitsOutline node

/-- The lines of an item begin and end visibly. -/
theorem framed_of_mem_sourceLines {children : List Node} {line : Text}
    (h : line ∈ sourceLines children) : Framed line ∧ '\n' ∉ line := by
  obtain ⟨child, -, hline⟩ := List.mem_flatMap.1 h
  cases hkind : child.kind with
  | paragraph =>
    rw [hkind] at hline
    exact ⟨framed_of_mem_trimmedLines hline, newline_not_mem_of_mem_trimmedLines hline⟩
  | _ => simp [hkind] at hline

mutual

/-- What holds of every item that may stand in an outline holds of those that do. -/
theorem forall_mem_outline {p : OutlineItem → Prop}
    (h : ∀ depth number checked children, p ⟨depth, number, checked, sourceLines children⟩)
    (depth : Nat) (node : Node) : ∀ item ∈ outline depth node, p item := by
  obtain ⟨kind, children⟩ := node
  cases kind with
  | list shape => exact forall_mem_outlineItems h depth shape.number? children
  | _ => exact nofun

/-- What holds of every item, wherever it stands, holds of an outline of items. -/
theorem forall_mem_outlineItems {p : OutlineItem → Prop}
    (h : ∀ depth number checked children, p ⟨depth, number, checked, sourceLines children⟩)
    (depth : Nat) (number : Option Nat) (items : List Node) :
    ∀ item ∈ outlineItems depth number items, p item := by
  cases items with
  | nil => exact nofun
  | cons item items =>
    obtain ⟨kind, children⟩ := item
    exact List.forall_mem_cons.2 ⟨h _ _ _ _, List.forall_mem_append.2
      ⟨forall_mem_outlineNested h depth children, forall_mem_outlineItems h depth _ items⟩⟩

/-- So does it of the outlines below an item. -/
theorem forall_mem_outlineNested {p : OutlineItem → Prop}
    (h : ∀ depth number checked children, p ⟨depth, number, checked, sourceLines children⟩)
    (depth : Nat) (nodes : List Node) : ∀ item ∈ outlineNested depth nodes, p item := by
  cases nodes with
  | nil => exact nofun
  | cons node nodes =>
    exact List.forall_mem_append.2
      ⟨forall_mem_outline h (depth + 1) node, forall_mem_outlineNested h depth nodes⟩

end

/-! ## Tight lists -/

mutual

/-- The tree with loose in place of tight lists. -/
def loosened : Node → Node
  | mk kind children => mk kind.loosened (loosenedAll children)

/-- The trees with loose in place of tight lists. -/
def loosenedAll : List Node → List Node
  | [] => []
  | node :: nodes => loosened node :: loosenedAll nodes

end

theorem kind_loosened (node : Node) : node.loosened.kind = node.kind.loosened := by
  cases node
  rfl

theorem children_loosened (node : Node) : node.loosened.children = loosenedAll node.children := by
  cases node
  rfl

theorem isList_loosened (node : Node) : node.loosened.isList = node.isList := by
  obtain ⟨kind, children⟩ := node
  cases kind <;> rfl

/-- Loosening changes no text. -/
theorem sourceText_loosenedAll (nodes : List Node) :
    sourceText (loosenedAll nodes) = sourceText nodes := by
  induction nodes with
  | nil => rfl
  | cons node nodes ih =>
    rw [sourceText, sourceText] at ih ⊢
    rw [loosenedAll, List.flatMap_cons, List.flatMap_cons, ih, kind_loosened]
    cases node.kind <;> rfl

/-- The lines of an item do not depend on whether the list is tight. -/
theorem sourceLines_loosenedAll (children : List Node) :
    sourceLines (loosenedAll children) = sourceLines children := by
  induction children with
  | nil => rfl
  | cons child children ih =>
    rw [sourceLines, sourceLines] at ih ⊢
    rw [loosenedAll, List.flatMap_cons, List.flatMap_cons, ih, kind_loosened, children_loosened]
    cases child.kind <;> simp only [NodeKind.loosened, sourceText_loosenedAll]

mutual

/-- Tight lists have the outline of loose ones. -/
theorem outline_loosened (depth : Nat) (node : Node) :
    outline depth node.loosened = outline depth node := by
  obtain ⟨kind, children⟩ := node
  cases kind with
  | list shape => exact outlineItems_loosenedAll depth shape.number? children
  | _ => rfl

/-- Nor does the outline of the items. -/
theorem outlineItems_loosenedAll (depth : Nat) (number : Option Nat) (items : List Node) :
    outlineItems depth number (loosenedAll items) = outlineItems depth number items := by
  cases items with
  | nil => rfl
  | cons item items =>
    obtain ⟨kind, children⟩ := item
    have hchecked : kind.loosened.checked? = kind.checked? := by cases kind <;> rfl
    rw [loosenedAll, loosened, outlineItems, outlineItems, hchecked, sourceLines_loosenedAll,
      outlineNested_loosenedAll depth children, outlineItems_loosenedAll depth _ items]

/-- Nor do the outlines below them. -/
theorem outlineNested_loosenedAll (depth : Nat) (nodes : List Node) :
    outlineNested depth (loosenedAll nodes) = outlineNested depth nodes := by
  cases nodes with
  | nil => rfl
  | cons node nodes =>
    rw [loosenedAll, outlineNested, outlineNested, outline_loosened (depth + 1) node,
      outlineNested_loosenedAll depth nodes]

end

/-- What is asked of the kinds of nodes, but not of lists, is asked of loose lists alike. -/
theorem all_loosenedAll {p : NodeKind → Bool} (hp : ∀ kind, p kind.loosened = p kind)
    (nodes : List Node) : (loosenedAll nodes).all (p ·.kind) = nodes.all (p ·.kind) := by
  induction nodes with
  | nil => rfl
  | cons node nodes ih => rw [loosenedAll, List.all_cons, List.all_cons, ih, kind_loosened, hp]

/-- Loosening leaves the kinds where they belong. -/
theorem fitsOutline_loosened (node : Node) : node.loosened.fitsOutline = node.fitsOutline := by
  obtain ⟨kind, children⟩ := node
  cases kind with
  | list | item | taskItem | paragraph =>
    exact all_loosenedAll (fun kind => by cases kind <;> rfl) children
  | _ => rfl

mutual

/-- So a loosened tree has an outline if the tree has one. -/
theorem isOutlined_loosened (node : Node) : node.loosened.isOutlined = node.isOutlined := by
  obtain ⟨kind, children⟩ := node
  have hkind := fitsOutline_loosened (mk kind children)
  rw [loosened] at hkind
  rw [isOutlined, isOutlined, loosened, everywhere, everywhere, hkind, everywhereAll_loosenedAll]

/-- Every node that is loosened fits where it fitted before. -/
theorem everywhereAll_loosenedAll (nodes : List Node) :
    everywhereAll fitsOutline (loosenedAll nodes) = everywhereAll fitsOutline nodes := by
  cases nodes with
  | nil => rfl
  | cons node nodes =>
    have hnode := isOutlined_loosened node
    rw [isOutlined, isOutlined] at hnode
    rw [loosenedAll, everywhereAll, everywhereAll, hnode, everywhereAll_loosenedAll nodes]

end

/-! ## Lists within lists -/

/-- The outline of a list is part of that of the item around it. -/
theorem outline_isInfix_outlineNested {depth : Nat} {node : Node} {nodes : List Node}
    (h : node ∈ nodes) : outline (depth + 1) node <:+: outlineNested depth nodes := by
  induction nodes with
  | nil => cases h
  | cons first rest ih =>
    rw [outlineNested]
    rcases List.mem_cons.1 h with rfl | h
    · exact (List.prefix_append _ _).isInfix
    · exact (ih h).trans (List.suffix_append _ _).isInfix

/-- What is below an item is part of the outline of the items. -/
theorem outlineNested_isInfix_outlineItems {depth : Nat} {number : Option Nat} {item : Node}
    {items : List Node} (h : item ∈ items) :
    outlineNested depth item.children <:+: outlineItems depth number items := by
  induction items generalizing number with
  | nil => cases h
  | cons first rest ih =>
    obtain ⟨kind, children⟩ := first
    rw [outlineItems]
    rcases List.mem_cons.1 h with rfl | h
    · exact ⟨[_], _, rfl⟩
    · exact (ih h).trans (List.suffix_append _ _).isInfix

/-- The outline of a list within an item stands in the outline of the list around it. -/
theorem outline_isInfix {depth : Nat} {list item nested : Node} (hlist : list.isList)
    (hitem : item ∈ list.children) (hnested : nested ∈ item.children) :
    outline (depth + 1) nested <:+: outline depth list := by
  obtain ⟨kind, items⟩ := list
  cases kind with
  | list shape =>
    exact (outline_isInfix_outlineNested hnested).trans (outlineNested_isInfix_outlineItems hitem)
  | _ => cases hlist

end Node

end Markdown

end Gemtext
