import Gemtext.Text.Basic

/-!
# The tree of a Markdown document

Every node has a kind and children.  The tree that the reader builds is well formed, with items in
lists and rows in tables, but the type does not ask for it: rendering is defined for every tree.
-/

namespace Gemtext

namespace Markdown

/-- How a column of a table asks to be aligned. -/
inductive ColumnAlignment where
  | none
  | left
  | center
  | right
  deriving DecidableEq, Repr

/-- What the items of a list have in common. -/
structure ListShape where
  ordered : Bool
  /-- Whether no blank lines part the items. -/
  tight : Bool
  /-- The number of the first item of an ordered list. -/
  start : Nat
  deriving DecidableEq, Repr

/-- The kinds of nodes. -/
inductive NodeKind where
  | document
  | frontMatter (text : Text)
  | paragraph
  | heading (level : Nat)
  | thematicBreak
  | codeBlock (info literal : Text)
  | htmlBlock (literal : Text)
  | blockQuote
  | list (shape : ListShape)
  | item
  /-- An item with a box, which is checked if it holds a symbol. -/
  | taskItem (symbol : Option Char)
  | table (alignments : List ColumnAlignment)
  | tableRow (header : Bool)
  | tableCell
  | text (text : Text)
  | softBreak
  | lineBreak
  | code (literal : Text)
  | htmlInline (literal : Text)
  | emphasis
  | strong
  | strikethrough
  | superscript
  | link (url : Text)
  | image (url : Text)
  deriving DecidableEq, Repr

/-- A node of the tree. -/
inductive Node where
  | mk (kind : NodeKind) (children : List Node)
  deriving Repr

namespace Node

/-- The kind of the node. -/
def kind : Node → NodeKind
  | mk kind _ => kind

/-- The children of the node, in order. -/
def children : Node → List Node
  | mk _ children => children

/-- Whether the node is a list. -/
def isList (n : Node) : Bool :=
  match n.kind with
  | .list _ => true
  | _ => false

mutual

/-- The text below the node: that of texts and code, with line breaks as spaces. -/
def innerText : Node → Text
  | mk kind children =>
    match kind with
    | .text text => text
    | .code literal => literal
    | .softBreak => [' ']
    | .lineBreak => [' ']
    | _ => innerTexts children

/-- The text below the nodes, one after the other. -/
def innerTexts : List Node → Text
  | [] => []
  | node :: nodes => innerText node ++ innerTexts nodes

end

end Node

end Markdown

end Gemtext
