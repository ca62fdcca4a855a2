import Gemtext.Markdown.Node

/-!
# The shape of a tree

Rendering is defined for every tree, but some of its laws hold for the trees only that a reader of
Markdown builds.  `Node.everywhere` asks something of a node and of all nodes below it.  A tree is
`Node.wellShaped` if its lists hold items, its tables rows and its rows cells, with nothing but
inline nodes in a cell, and if nothing stands below a leaf.  It is `Node.layered` if blocks hold
blocks or inline nodes as they should.
-/

namespace Gemtext

namespace Markdown

namespace NodeKind

/-- Whether nodes of the kind are part of a line. -/
def isInline : NodeKind → Bool
  | text _ | softBreak | lineBreak | code _ | htmlInline _ => true
  | emphasis | strong | strikethrough | superscript | link _ | image _ => true
  | _ => false

/-- Whether nodes of the kind are blocks of a document. -/
def isBlock : NodeKind → Bool
  | frontMatter _ | paragraph | heading _ | thematicBreak | codeBlock _ _ | htmlBlock _ => true
  | blockQuote | list _ | table _ => true
  | _ => false

/-- Whether nodes of the kind have no children. -/
def isLeaf : NodeKind → Bool
  | frontMatter _ | thematicBreak | codeBlock _ _ | htmlBlock _ => true
  | text _ | softBreak | lineBreak | code _ | htmlInline _ => true
  | _ => false

/-- Whether nodes of the kind are items of a list. -/
def isItem : NodeKind → Bool
  | item | taskItem _ => true
  | _ => false

/-- Whether nodes of the kind are rows of a table. -/
def isRow : NodeKind → Bool
  | tableRow _ => true
  | _ => false

/-- Whether nodes of the kind are rendered between fences. -/
def isFenced : NodeKind → Bool
  | codeBlock .. | htmlBlock _ | table _ => true
  | _ => false

/-- A row of a table is its header, or not. -/
theorem exists_eq_tableRow {kind : NodeKind} (h : kind.isRow) :
    ∃ header, kind = .tableRow header := by
  cases kind <;> first | exact ⟨_, rfl⟩ | cases h

/-- Only blocks are rendered between fences. -/
theorem isFenced_of_isInline {kind : NodeKind} (h : kind.isInline) : kind.isFenced = false := by
  cases kind <;> first | rfl | cases h

end NodeKind

namespace Node

mutual

/-- Whether `p` holds of the node and of every node below it. -/
def everywhere (p : Node → Bool) : Node → Bool
  | mk kind children => p (mk kind children) && everywhereAll p children

/-- Whether `p` holds of the nodes and of every node below them. -/
def everywhereAll (p : Node → Bool) : List Node → Bool
  | [] => true
  | node :: nodes => everywhere p node && everywhereAll p nodes

end

variable {p : Node → Bool}

theorem everywhere_mk {kind : NodeKind} {children : List Node} :
    everywhere p (mk kind children) ↔ p (mk kind children) ∧ everywhereAll p children := by
  rw [everywhere, Bool.and_eq_true]

theorem everywhereAll_cons {node : Node} {nodes : List Node} :
    everywhereAll p (node :: nodes) ↔ everywhere p node ∧ everywhereAll p nodes := by
  rw [everywhereAll, Bool.and_eq_true]

/-- What holds of all nodes holds of each of them. -/
theorem everywhereAll_eq_all (nodes : List Node) :
    everywhereAll p nodes = nodes.all (everywhere p) := by
  induction nodes with
  | nil => rfl
  | cons node nodes ih => rw [everywhereAll, ih, List.all_cons]

mutual

theorem everywhere_true (node : Node) : everywhere (fun _ => true) node := by
  cases node with
  | mk kind children => exact everywhere_mk.2 ⟨rfl, everywhereAll_true children⟩

theorem everywhereAll_true (nodes : List Node) : everywhereAll (fun _ => true) nodes := by
  cases nodes with
  | nil => rfl
  | cons node nodes => exact everywhereAll_cons.2 ⟨everywhere_true node, everywhereAll_true nodes⟩

end

mutual

/-- What holds everywhere gives what follows from it everywhere. -/
theorem everywhere_mono {q : Node → Bool} (hpq : ∀ node, p node → q node) {node : Node}
    (h : everywhere p node) : everywhere q node := by
  cases node with
  | mk kind children =>
    obtain ⟨hnode, hchildren⟩ := everywhere_mk.1 h
    exact everywhere_mk.2 ⟨hpq _ hnode, everywhereAll_mono hpq hchildren⟩

theorem everywhereAll_mono {q : Node → Bool} (hpq : ∀ node, p node → q node) {nodes : List Node}
    (h : everywhereAll p nodes) : everywhereAll q nodes := by
  cases nodes with
  | nil => rfl
  | cons node nodes =>
    obtain ⟨hnode, hnodes⟩ := everywhereAll_cons.1 h
    exact everywhereAll_cons.2 ⟨everywhere_mono hpq hnode, everywhereAll_mono hpq hnodes⟩

end

mutual

/-- Two properties hold everywhere if each does. -/
theorem everywhere_and {q : Node → Bool} {node : Node} :
    everywhere (fun node => p node && q node) node ↔ everywhere p node ∧ everywhere q node := by
  cases node with
  | mk kind children =>
    rw [everywhere_mk, everywhere_mk, everywhere_mk, Bool.and_eq_true, everywhereAll_and,
      and_and_and_comm]

theorem everywhereAll_and {q : Node → Bool} {nodes : List Node} :
    everywhereAll (fun node => p node && q node) nodes ↔
      everywhereAll p nodes ∧ everywhereAll q nodes := by
  cases nodes with
  | nil => simp [everywhereAll]
  | cons node nodes =>
    rw [everywhereAll_cons, everywhereAll_cons, everywhereAll_cons, everywhere_and,
      everywhereAll_and, and_and_and_comm]

end

mutual

/-- What holds of the characters of texts and code, and of spaces, holds of the bare text. -/
theorem all_innerText {q : Char → Bool} {plain : NodeKind → Bool} (hspace : q ' ')
    (htext : ∀ s, plain (.text s) → s.all q) (hcode : ∀ s, plain (.code s) → s.all q)
    {node : Node} (h : everywhere (fun node => plain node.kind) node) :
    (innerText node).all q := by
  obtain ⟨kind, children⟩ := node
  obtain ⟨hkind, hchildren⟩ := everywhere_mk.1 h
  have hinner := all_innerTexts hspace htext hcode hchildren
  cases kind with
  | text s => exact htext s hkind
  | code s => exact hcode s hkind
  | softBreak | lineBreak => simp [innerText, hspace]
  | _ => exact hinner

/-- The texts within nodes hold only characters that their texts and code do, and spaces. -/
theorem all_innerTexts {q : Char → Bool} {plain : NodeKind → Bool} (hspace : q ' ')
    (htext : ∀ s, plain (.text s) → s.all q) (hcode : ∀ s, plain (.code s) → s.all q)
    {nodes : List Node} (h : everywhereAll (fun node => plain node.kind) nodes) :
    (innerTexts nodes).all q := by
  cases nodes with
  | nil => rfl
  | cons node nodes =>
    obtain ⟨hnode, hnodes⟩ := everywhereAll_cons.1 h
    rw [innerTexts, List.all_append, all_innerText hspace htext hcode hnode,
      all_innerTexts hspace htext hcode hnodes]
    rfl

end

/-- Whether the node and all below it are part of a line. -/
def isInline (node : Node) : Bool :=
  everywhere (fun node => node.kind.isInline) node

/-- Whether neither the node nor a node below it is rendered between fences. -/
def unfenced (node : Node) : Bool :=
  everywhere (fun node => !node.kind.isFenced) node

/-- Whether the children of the node are of the kinds that belong there. -/
def fitsChildren : Node → Bool
  | mk kind children =>
    match kind, children with
    | .list _, items => items.all fun item => item.kind.isItem
    | .table _, [] => false
    | .table _, head :: rows =>
      head.kind = .tableRow true && rows.all fun row => row.kind = .tableRow false
    | .tableRow _, cells => cells.all fun cell => cell.kind = .tableCell
    | .tableCell, contents => contents.all isInline
    | kind, children => !kind.isLeaf || children.isEmpty

/-- The header row stands before the other rows. -/
theorem all_isRow_of_fitsChildren {columns : List ColumnAlignment} {rows : List Node}
    (h : fitsChildren (mk (.table columns) rows)) :
    (rows.all fun row => row.kind.isRow) ∧
      rows.head?.any fun row => row.kind = .tableRow true := by
  cases rows with
  | nil => cases h
  | cons head others =>
    simp only [fitsChildren, Bool.and_eq_true, decide_eq_true_eq] at h
    -- the header row stands first, and the others are rows as well
    obtain ⟨hhead, hothers⟩ := h
    refine ⟨?_, by simpa using hhead⟩
    rw [List.all_cons, Bool.and_eq_true, List.all_eq_true, hhead]
    refine ⟨rfl, fun row hrow => ?_⟩
    rw [of_decide_eq_true (List.all_eq_true.1 hothers row hrow)]
    rfl

/-- Whether blocks stand where blocks belong, and inline nodes where these belong. -/
def fitsContent : Node → Bool
  | mk kind children =>
    match kind with
    | .document | .blockQuote | .item | .taskItem _ => children.all fun child => child.kind.isBlock
    | .paragraph | .heading _ => children.all isInline
    | _ => true

/-- Whether the tree has two layers, as a reader of Markdown builds it: blocks stand in the
document, in quotations and in items, and inline nodes in paragraphs and headings. -/
def layered (node : Node) : Bool :=
  everywhere fitsContent node

/-- Whether the tree has the shape that a reader of Markdown builds: items in lists, rows in tables
with one header row before the others, cells in rows, inline nodes in cells, and nothing below a
leaf. -/
def wellShaped (node : Node) : Bool :=
  everywhere fitsChildren node

end Node

end Markdown

end Gemtext
