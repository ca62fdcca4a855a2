import Gemtext.Markdown.Node
import Gemtext.Render.Renderer

/-!
# Rendering a tree

`Markdown.Node.render` hands every node to its callback, children before their parent.  Items of a
list and cells of a table are grouped, since their callbacks take them together.  Only the table
callback can fail; rendering stops then, and the state is the one at that point.
-/

namespace Gemtext

/-- A rendering step on the state `σ` of a renderer, which may fail at a table. -/
abbrev Rendering (σ : Type) := ExceptT TableError (StateM σ)

namespace Markdown

/-- The alignment that a column is drawn with. -/
def ColumnAlignment.toAlignment : ColumnAlignment → Alignment
  | none => .left
  | left => .left
  | center => .center
  | right => .right

namespace Node

variable {σ : Type}

mutual

/-- Render a node inside `level` lists.  `tight` tells whether it is a child of an item of a tight
list, where paragraphs are bare text. -/
def renderIn (r : Renderer σ) (tight : Bool) (level : Nat) : Node → Rendering σ Content
  | mk kind children =>
    match kind with
    | .frontMatter _ => pure []
    | .paragraph => do
      let content ← renderAll r level children
      if tight then r.blockText content else r.paragraph content
    | .heading depth => do
      r.enterHeading
      let content ← renderAll r level children
      r.heading content depth
    | .thematicBreak => r.thematicBreak
    | .codeBlock info literal => r.codeBlock literal (if info.isEmpty then none else some info)
    | .htmlBlock literal => r.htmlBlock literal
    | .blockQuote => do
      let content ← renderAll r level children
      r.blockQuote content
    | .list shape => do
      let entries ← renderItems r shape.tight (level + 1) children
      r.list entries shape.ordered (level + 1) shape.start
    | .table alignments => do
      let rows ← renderRows r (alignments.map ColumnAlignment.toAlignment) level children
      let drawn ← ExceptT.mk r.table
      pure (rows ++ drawn)
    | .text text => r.text text
    | .softBreak => r.softBreak
    | .lineBreak => r.lineBreak
    | .code literal => r.code literal
    | .htmlInline literal => r.htmlInline literal
    | .emphasis => do
      let content ← renderAll r level children
      r.emphasis content
    | .strong => do
      let content ← renderAll r level children
      r.strong content
    | .link url => do
      let content ← renderAll r level children
      r.link url content (innerTexts children)
    | .image url => r.image url (innerTexts children)
    | _ => renderAll r level children

/-- Render nodes one after the other. -/
def renderAll (r : Renderer σ) (level : Nat) : List Node → Rendering σ Content
  | [] => pure []
  | node :: nodes => do
    let content ← renderIn r false level node
    let others ← renderAll r level nodes
    pure (content ++ others)

/-- Render the items of a list. -/
def renderItems (r : Renderer σ) (tight : Bool) (level : Nat) :
    List Node → Rendering σ (List ListEntry)
  | [] => pure []
  | mk kind children :: items => do
    let parts ← renderItemParts r tight level children
    let content ←
      match kind with
      | .taskItem symbol => r.taskListItem parts.content level symbol.isSome
      | _ => r.listItem parts.content level
    let entries ← renderItems r tight level items
    pure (⟨content, parts.nested⟩ :: entries)

/-- Render the children of an item, with nested lists apart from the rest. -/
def renderItemParts (r : Renderer σ) (tight : Bool) (level : Nat) :
    List Node → Rendering σ ListEntry
  | [] => pure ⟨[], []⟩
  | node :: nodes => do
    let content ← renderIn r tight level node
    let others ← renderItemParts r tight level nodes
    if node.isList then pure ⟨others.content, content ++ others.nested⟩
    else pure ⟨content ++ others.content, others.nested⟩

/-- Render the rows of a table. -/
def renderRows (r : Renderer σ) (alignments : List Alignment) (level : Nat) :
    List Node → Rendering σ Content
  | [] => pure []
  | mk kind cells :: rows => do
    let isHead := kind = .tableRow true
    let content ← renderCells r isHead alignments level cells
    let row ← if isHead then r.tableHead content else r.tableRow content
    let others ← renderRows r alignments level rows
    pure (row ++ others)

/-- Render the cells of a row.  A cell without a column is aligned to the left. -/
def renderCells (r : Renderer σ) (isHead : Bool) (alignments : List Alignment) (level : Nat) :
    List Node → Rendering σ Content
  | [] => pure []
  | mk _ children :: cells => do
    let content ← renderAll r level children
    let cell ← r.tableCell content (alignments.headD .left) isHead
    let others ← renderCells r isHead alignments.tail level cells
    pure (cell ++ others)

end

/-- Render a node inside `level` lists. -/
def render (r : Renderer σ) (level : Nat) (node : Node) : Rendering σ Content :=
  renderIn r false level node

end Node

end Markdown

end Gemtext
