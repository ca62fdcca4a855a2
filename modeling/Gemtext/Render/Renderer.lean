import Gemtext.Content.Basic
import Gemtext.Table.Basic

/-!
# Renderers

A renderer has one callback per kind of syntax element.  Callbacks receive the rendered content of
the element's children, work on a state of their own, and answer with content.
`Gemtext.Render.Walk` calls them for a whole tree.
-/

namespace Gemtext

/-- A rendered list item: its own content, and that of the lists inside it. -/
structure ListEntry where
  content : Content
  nested : Content
  deriving DecidableEq, Repr

/-- The callbacks of a renderer with state `σ`. -/
structure Renderer (σ : Type) where
  text : Text → StateM σ Content
  softBreak : StateM σ Content
  lineBreak : StateM σ Content
  emphasis : Content → StateM σ Content
  strong : Content → StateM σ Content
  code : Text → StateM σ Content
  htmlInline : Text → StateM σ Content
  /-- The target, the rendered content, and the bare text below the link. -/
  link : Text → Content → Text → StateM σ Content
  /-- The source and the bare text below the image. -/
  image : Text → Text → StateM σ Content
  paragraph : Content → StateM σ Content
  /-- A paragraph directly inside an item of a tight list. -/
  blockText : Content → StateM σ Content
  /-- Called before the content of a heading is rendered. -/
  enterHeading : StateM σ Unit
  /-- The content and the level of the heading. -/
  heading : Content → Nat → StateM σ Content
  thematicBreak : StateM σ Content
  /-- The code and the info text, if there is one. -/
  codeBlock : Text → Option Text → StateM σ Content
  blockQuote : Content → StateM σ Content
  htmlBlock : Text → StateM σ Content
  /-- The content and the number of lists around it. -/
  listItem : Content → Nat → StateM σ Content
  /-- The content, the number of lists around it, and whether the box is checked. -/
  taskListItem : Content → Nat → Bool → StateM σ Content
  /-- The items, whether they are numbered, the number of lists around them, and the first
  number. -/
  list : List ListEntry → Bool → Nat → Nat → StateM σ Content
  /-- The content, the alignment of the column, and whether the cell is in the header. -/
  tableCell : Content → Alignment → Bool → StateM σ Content
  tableHead : Content → StateM σ Content
  tableRow : Content → StateM σ Content
  /-- Called after the header and the rows of a table. -/
  table : StateM σ (Except TableError Content)

end Gemtext
