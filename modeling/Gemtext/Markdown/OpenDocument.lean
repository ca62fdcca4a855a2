import Gemtext.Markdown.Block

/-!
# The open blocks of a document

While a document is read, its last block, the last block in that, and so on may be open.  They
form a path from the document to the innermost open block, the tip.
-/

namespace Gemtext

namespace Markdown

/-- A document of which a part is read. -/
structure OpenDocument where
  /-- The block that is the document itself. -/
  root : OpenBlock
  /-- The open blocks in it, the innermost first. -/
  inner : List OpenBlock
  /-- The link definitions so far, the last one first. -/
  references : List Reference

namespace OpenDocument

/-- The document before its first line. -/
def empty : OpenDocument :=
  ⟨.ofKind .document, [], []⟩

/-- The innermost open block. -/
def tip (d : OpenDocument) : OpenBlock :=
  d.inner.headD d.root

/-- Change the innermost open block. -/
def mapTip (f : OpenBlock → OpenBlock) (d : OpenDocument) : OpenDocument :=
  match d.inner with
  | [] => { d with root := f d.root }
  | b :: outer => { d with inner := f b :: outer }

/-- Open a block in the innermost one. -/
def push (b : OpenBlock) (d : OpenDocument) : OpenDocument :=
  { d with inner := b :: d.inner }

/-- Close the given blocks, the innermost first, which are in the innermost open one. -/
def closeAll (blocks : List OpenBlock) (d : OpenDocument) : OpenDocument :=
  let (references, closed) := closeBlocks d.references [] blocks
  { d with references }.mapTip (·.addBlocks closed)

/-- Close the innermost open block, unless it is the document.  If it is a list, it is judged by
the given items. -/
def closeTip (judged : List Block) (d : OpenDocument) : OpenDocument :=
  match d.inner with
  | [] => d
  | b :: outer =>
    let (found, closed) := b.close judged
    { d with inner := outer, references := found.reverse ++ d.references }.mapTip
      (·.addBlocks closed.toList)

/-- Add a line to the innermost open block. -/
def addLine (line : Text) (d : OpenDocument) : OpenDocument :=
  d.mapTip (·.addLine line)

/-- Set whether a blank line ends the innermost open block; it ends none of those around it. -/
def markEnd (blank : Bool) (d : OpenDocument) : OpenDocument :=
  let clear (b : OpenBlock) : OpenBlock := { b with endsBlank := false }
  { d with root := clear d.root, inner := d.inner.map clear }.mapTip
    ({ · with endsBlank := blank })

/-- Close all blocks: the link definitions in order, and the blocks of the document. -/
def close (d : OpenDocument) : List Reference × List Block :=
  let (references, closed) := closeBlocks d.references [] d.inner
  (references.reverse, (closed ++ d.root.children).reverse)

end OpenDocument

end Markdown

end Gemtext
