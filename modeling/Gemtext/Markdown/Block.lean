import Gemtext.Markdown.BlockStart
import Gemtext.Markdown.Node
import Gemtext.Markdown.Reference

/-!
# Blocks

A block is open as long as further lines may belong to it.  `OpenBlock.close?` makes a finished
`Block` of it, whose text is not yet read into inline nodes, since link definitions may follow
later in the document.

A list is tight if no blank line parts its items or the blocks in them.  Therefore a block
remembers whether a blank line ends it.
-/

namespace Gemtext

namespace Markdown

/-- A finished block. -/
inductive Block where
  /-- A block with the text whose inline nodes it holds, and with the blocks in it. -/
  | mk (kind : NodeKind) (text : Text) (children : List Block) (endsBlank : Bool)
  deriving Repr

namespace Block

/-- The blocks in the block, in order. -/
def children : Block → List Block
  | mk _ _ children _ => children

/-- Whether the last line that was read at the end of the block is blank. -/
def endsBlank : Block → Bool
  | mk _ _ _ blank => blank

/-- The block with a blank line at its end. -/
def withBlankEnd : Block → Block
  | mk kind text children _ => mk kind text children true

/-- Whether the block is a list or an item. -/
def isListPart (kind : NodeKind) : Bool :=
  match kind with
  | .list _ => true
  | .item => true
  | _ => false

mutual

/-- Whether a blank line ends the block, or the last block in a list or an item. -/
def trailsBlank : Block → Bool
  | mk kind _ children blank => blank || (isListPart kind && lastTrailsBlank children)

/-- Whether a blank line ends the last one of the blocks. -/
def lastTrailsBlank : List Block → Bool
  | [] => false
  | [b] => trailsBlank b
  | _ :: b :: bs => lastTrailsBlank (b :: bs)

end

/-- Whether no blank line parts the blocks of an item from each other or, if another item follows,
from that. -/
def unparted (followed : Bool) : List Block → Bool
  | [] => true
  | b :: bs => !((followed || !bs.isEmpty) && b.trailsBlank) && unparted followed bs

/-- Whether a list with the given items is tight. -/
def areTight : List Block → Bool
  | [] => true
  | item :: items =>
    !(item.endsBlank && !items.isEmpty) && unparted (!items.isEmpty) item.children &&
      areTight items

end Block

/-- The kinds of blocks that are open, with what decides whether a line belongs to them. -/
inductive OpenKind where
  | document
  | blockQuote
  | list (marker : ListMarker) (start : Nat)
  /-- An item whose further lines are indented at least so far. -/
  | item (indent : Nat)
  /-- A paragraph; a line in it may have been refused already as the line under a header. -/
  | paragraph (noTable : Bool)
  | heading (level : Nat)
  | thematicBreak
  | indentedCode
  | fencedCode (fence : Fence)
  | html (kind : HtmlKind)
  | table (alignments : List ColumnAlignment)
  | tableRow
  deriving DecidableEq, Repr

namespace OpenKind

/-- Whether the block is a paragraph. -/
def isParagraph : OpenKind → Bool
  | paragraph _ => true
  | _ => false

/-- Whether no other block begins in the block, since its lines are kept as they are. -/
def isLiteral : OpenKind → Bool
  | indentedCode => true
  | fencedCode _ => true
  | html _ => true
  | _ => false

/-- Whether lines of text are added to the block. -/
def takesText : OpenKind → Bool
  | paragraph _ => true
  | heading _ => true
  | indentedCode => true
  | fencedCode _ => true
  | _ => false

/-- Whether the block may have one of the second kind as a child. -/
def holds (kind : OpenKind) (child : OpenKind) : Bool :=
  match kind, child with
  | list .., item _ => true
  | table _, tableRow => true
  | document, _ => true
  | blockQuote, _ => true
  | item _, _ => true
  | _, _ => false

/-- Whether a blank line counts as the end of the block; `fresh` tells whether the block began on
that line. -/
def endsWithBlank (fresh : Bool) : OpenKind → Bool
  | blockQuote => false
  | heading _ => false
  | thematicBreak => false
  | fencedCode _ => false
  | item _ => !fresh
  | _ => true

end OpenKind

/-- A block to which further lines may belong. -/
structure OpenBlock where
  kind : OpenKind
  /-- The lines of its text with their endings, the last one first. -/
  lines : List Text
  /-- The finished blocks in it, the last one first. -/
  children : List Block
  /-- Whether the last line that was read at its end is blank. -/
  endsBlank : Bool
  deriving Repr

/-- The definitions at the start of a paragraph's text, and the text without them. -/
def partDefinitions (s : Text) : List Reference × Text :=
  takeDefinitions s.length s

/-- Code without the blank lines at its end. -/
def dropBlankLines (code : Text) : Text :=
  let kept := Text.dropEndWhile (fun c => isSpaceOrTab c || isLineEnd c) code
  kept ++ (code.drop kept.length).takeWhile (!isLineEnd ·)

/-- The first line of a text without its ending, and what follows. -/
def partFirstLine (s : Text) : Text × Text :=
  (s.takeWhile (!isLineEnd ·), (s.dropWhile (!isLineEnd ·)).drop 1)

namespace OpenBlock

/-- A block without content. -/
def ofKind (kind : OpenKind) : OpenBlock :=
  ⟨kind, [], [], false⟩

/-- The text of the block. -/
def text (b : OpenBlock) : Text :=
  b.lines.reverse.flatten

/-- Add a line, which has its ending. -/
def addLine (line : Text) (b : OpenBlock) : OpenBlock :=
  { b with lines := line :: b.lines }

/-- Add finished blocks, the last one first. -/
def addBlocks (blocks : List Block) (b : OpenBlock) : OpenBlock :=
  { b with children := blocks ++ b.children }

/-- Remember that a blank line follows the last finished block in the block. -/
def markLastChild (b : OpenBlock) : OpenBlock :=
  match b.children with
  | [] => b
  | last :: others => { b with children := last.withBlankEnd :: others }

/-- The finished block, which has the given kind and keeps its text. -/
def finish (kind : NodeKind) (text : Text) (b : OpenBlock) : Block :=
  .mk kind text b.children.reverse b.endsBlank

/-- Close a block: the definitions in it, and the finished block.  A paragraph that consists of
definitions leaves none.  A list is tight if the items `judged` are, the last one first. -/
def close (judged : List Block) (b : OpenBlock) : List Reference × Option Block :=
  match b.kind with
  | .document => ([], some (b.finish .document []))
  | .blockQuote => ([], some (b.finish .blockQuote []))
  | .list marker start =>
    let ordered :=
      match marker with
      | .bullet _ => false
      | .number _ => true
    ([], some (b.finish (.list ⟨ordered, Block.areTight judged.reverse, start⟩) []))
  | .item _ => ([], some (b.finish .item []))
  | .paragraph _ =>
    let (references, text) := partDefinitions b.text
    (references, if text.isEmpty then none else some (b.finish .paragraph text))
  | .heading level => ([], some (b.finish (.heading level) b.text))
  | .thematicBreak => ([], some (b.finish .thematicBreak []))
  | .indentedCode => ([], some (b.finish (.codeBlock [] (dropBlankLines b.text ++ ['\n'])) []))
  | .fencedCode _ =>
    let (info, literal) := partFirstLine b.text
    let info := unescapeBackslashes (trimWhite (unescapeEntities info))
    ([], some (b.finish (.codeBlock info literal) []))
  | .html _ => ([], some (b.finish (.htmlBlock b.text) []))
  | .table alignments => ([], some (b.finish (.table alignments) []))
  | .tableRow => ([], some (b.finish (.tableRow false) []))

/-- The block as it would be if it were closed, as far as its list is judged by it. -/
def sketch (b : OpenBlock) : Block :=
  let kind : NodeKind :=
    match b.kind with
    | .list .. => .list ⟨false, true, 1⟩
    | .item _ => .item
    | _ => .paragraph
  b.finish kind []

end OpenBlock

/-- Close open blocks, the innermost first; the innermost one gets the finished blocks `inner`.
The answer has the definitions, the last one first, and what the outermost one leaves. -/
def closeBlocks (references : List Reference) (inner : List Block) :
    List OpenBlock → List Reference × List Block
  | [] => (references, inner)
  | b :: outer =>
    let b := b.addBlocks inner
    let (found, closed) := b.close b.children
    closeBlocks (found.reverse ++ references) closed.toList outer

/-- What open blocks, the innermost first, look like to the list around them. -/
def sketchBlocks (inner : List Block) : List OpenBlock → List Block
  | [] => inner
  | b :: outer => sketchBlocks [(b.addBlocks inner).sketch] outer

end Markdown

end Gemtext
