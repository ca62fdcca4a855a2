import Gemtext.Markdown.Autolink
import Gemtext.Markdown.Inline
import Gemtext.Markdown.Reading

/-!
# Reading a document

`parse` reads the blocks of a document line by line and then the text in them.  Items that begin
with a box are task list items, and addresses in plain text are links.
-/

namespace Gemtext

namespace Markdown

/-- The box at the start of a text, and what follows it and the white space behind it: the symbol
in it, if there is one. -/
def taskBox? (s : Text) : Option (Option Char × Text) :=
  match dropWhite s with
  | '[' :: symbol :: ']' :: rest =>
    if rest.head?.all isSpaceChar then
      if symbol = ' ' then some (none, rest.drop 1)
      else if symbol = 'x' || symbol = 'X' then some (some symbol, rest.drop 1)
      else none
    else none
  | _ => none

/-- The item with the given children, which is a task list item if they begin with a box. -/
def itemNode (children : List Node) : Node :=
  match children with
  | .mk .paragraph (.mk (.text s) _ :: inlines) :: others =>
    match taskBox? s with
    | some (symbol, rest) =>
      .mk (.taskItem symbol) (.mk .paragraph (.mk (.text rest) [] :: inlines) :: others)
    | none => .mk .item children
  | _ => .mk .item children

mutual

/-- The node of a block. -/
def Block.toNode (references : List Reference) : Block → Node
  | .mk kind text children _ =>
    match kind with
    | .paragraph => .mk kind (readInlines references text)
    | .heading _ => .mk kind (readInlines references text)
    | .tableCell => .mk kind (readInlines references text)
    | .item => itemNode (toNodes references children)
    | _ => .mk kind (toNodes references children)

/-- The nodes of blocks. -/
def toNodes (references : List Reference) : List Block → List Node
  | [] => []
  | b :: bs => b.toNode references :: toNodes references bs

end

/-- The tree of a Markdown document. -/
def parse (source : Text) : Node :=
  let (references, blocks) := ((sourceLines source).foldl OpenDocument.readLine .empty).close
  .mk .document (linkInNodes (toNodes references blocks))

end Markdown

end Gemtext
