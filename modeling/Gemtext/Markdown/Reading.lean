import Gemtext.Markdown.Line
import Gemtext.Markdown.OpenDocument
import Gemtext.Markdown.TableSyntax

/-!
# Reading a line

A line is read in three steps.  It is followed into the open blocks that it goes on in, each of
which takes its marker or its indent.  Then it may begin blocks of its own.  What is left is text
of the innermost block that was reached, or of a new paragraph.

A line that ends inside fewer blocks than are open leaves the others dangling.  They are closed,
unless the line is plain text and goes on in a dangling paragraph.
-/

namespace Gemtext

namespace Markdown

/-- Where a line stands to an open block. -/
inductive Continuation where
  /-- The line goes on in the block, with what is left of it. -/
  | inside (line : Line)
  | outside
  /-- The line closes the block and belongs to it. -/
  | closing
  deriving DecidableEq, Repr

/-- Where a line stands to a block of the given kind; `filled` tells whether there are blocks in
it. -/
def OpenKind.continuation (filled : Bool) (l : Line) : OpenKind → Continuation
  | document => .inside l
  | list .. => .inside l
  | thematicBreak => .inside l
  | blockQuote =>
    if l.indent < 4 && l.text.head? == some '>' then .inside (l.dropMarker 1).dropPadding
    else .outside
  | item indent =>
    if indent ≤ l.indent then .inside (l.dropColumns indent)
    else if l.isBlank && filled then .inside l.dropIndent
    else .outside
  | paragraph _ => if l.isBlank then .outside else .inside l
  | heading _ => .outside
  | indentedCode =>
    if 4 ≤ l.indent then .inside (l.dropColumns 4)
    else if l.isBlank then .inside l.dropIndent
    else .outside
  | fencedCode fence =>
    if l.indent < 4 && fence.closedBy l.text then .closing
    else .inside (l.dropIndentAtMost fence.indent)
  | html .block => if l.isBlank then .outside else .inside l
  | html .lone => if l.isBlank then .outside else .inside l
  | html _ => .inside l
  | table _ => if (row? (l.text ++ ['\n'])).isSome then .inside l else .outside
  | tableRow => .outside

/-- A document with a line of which a part is read. -/
structure Reading where
  /-- The document, as far as the line belongs to its open blocks. -/
  document : OpenDocument
  /-- The open blocks that the line is outside of, the innermost first. -/
  dangling : List OpenBlock
  line : Line
  /-- Whether the innermost open block began on the line. -/
  fresh : Bool
  /-- Whether the line closes the innermost open block. -/
  closing : Bool

namespace Reading

/-- Begin to read a line. -/
def start (d : OpenDocument) (s : Text) : Reading :=
  ⟨{ d with inner := [] }, [], .ofText s, false, false⟩

/-- The kind of the innermost block that the line belongs to. -/
def kind (r : Reading) : OpenKind :=
  r.document.tip.kind

/-- Follow the line into open blocks, the outermost first. -/
def follow (r : Reading) : List OpenBlock → Reading
  | [] => r
  | b :: inner =>
    match b.kind.continuation (!(inner.isEmpty && b.children.isEmpty)) r.line with
    | .inside line => follow { r with document := r.document.push b, line } inner
    | .outside => { r with dangling := (b :: inner).reverse }
    | .closing => { r with document := r.document.push b, closing := true }

/-- Close the dangling blocks. -/
def closeDangling (r : Reading) : Reading :=
  { r with document := r.document.closeAll r.dangling, dangling := [] }

/-- Open a block, with what is left of the line.  The block around it is closed if it cannot hold
the new one; the one around that can.  A list that is closed so is judged with its dangling blocks
as they are. -/
def openBlock (r : Reading) (kind : OpenKind) (line : Line) : Reading :=
  let judged := sketchBlocks [] r.dangling ++ r.document.tip.children
  let d := r.closeDangling.document
  let d := if d.tip.kind.holds kind then d else d.closeTip judged
  ⟨d.push (.ofKind kind), [], line, true, false⟩

/-- Begin a quotation. -/
def startQuote? (r : Reading) : Option Reading :=
  if r.line.text.head? = some '>' then
    some (r.openBlock .blockQuote (r.line.dropMarker 1).dropPadding)
  else none

/-- Begin a heading with hash signs. -/
def startHeading? (r : Reading) : Option Reading :=
  (headingStart? r.line.text).map fun (level, text) =>
    r.openBlock (.heading level) { r.line with rest := text, midTab := false }

/-- Begin a code block with a fence. -/
def startFence? (r : Reading) : Option Reading :=
  let indent := r.line.rest.length - r.line.text.length
  (fenceStart? indent r.line.text).map fun fence =>
    r.openBlock (.fencedCode fence) (r.line.dropMarker fence.length)

/-- Begin a block of HTML. -/
def startHtml? (r : Reading) : Option Reading :=
  (htmlStart? r.kind.isParagraph r.line.text).map fun kind => r.openBlock (.html kind) r.line

/-- Make a heading of a paragraph whose underline is read.  A paragraph that consists of
definitions takes the underline as text. -/
def underline? (r : Reading) : Option Reading :=
  match r.kind, underlineLevel? r.line.text with
  | .paragraph noTable, some level =>
    let (found, text) := partDefinitions r.document.tip.text
    let (kind, line) : OpenKind × Line :=
      if text.isEmpty then (.paragraph noTable, r.line) else (.heading level, r.line.dropAll)
    let d := { r.document with references := found.reverse ++ r.document.references }
    some { r with document := d.mapTip ({ · with kind, lines := [text] }), line }
  | _, _ => none

/-- Read a thematic break. -/
def startBreak? (r : Reading) : Option Reading :=
  if isThematicBreak r.line.text && !(r.kind.isParagraph && !r.dangling.isEmpty) then
    some (r.openBlock .thematicBreak r.line.dropAll)
  else none

/-- Begin an item, and a list if the item is not of the list around it.  The content begins one to
four columns behind the marker, or one column if there is none or it is code. -/
def startItem? (r : Reading) : Option Reading :=
  (itemStart? r.kind.isParagraph r.line.text).map fun start =>
    let behind := r.line.dropMarker start.width
    let padding := behind.indent
    let regular := 1 ≤ padding && padding ≤ 4 && !behind.isBlank
    let line := if regular then behind.dropIndent else behind.dropPadding
    let indent := r.line.indent + start.width + if regular then padding else 1
    let goesOn : Bool :=
      match r.kind with
      | .list marker _ => marker == start.marker
      | _ => false
    let r := if goesOn then r else r.openBlock (.list start.marker start.number) r.line
    r.openBlock (.item indent) line

/-- Begin code that is indented by four columns, where no paragraph can go on. -/
def startCode? (lazily : Bool) (r : Reading) : Option Reading :=
  if lazily || r.line.isBlank then none
  else some (r.openBlock .indentedCode (r.line.dropColumns 4))

/-- A cell with the given text. -/
def cell (s : Text) : Block :=
  .mk .tableCell s [] false

/-- Make a table of a paragraph whose last line is the header and under which there is a line of
dashes.  The lines above the header stay a paragraph. -/
def startTable? (r : Reading) : Option Reading :=
  match r.kind with
  | .paragraph false =>
    let line := r.line.text ++ ['\n']
    if isDelimiterRow line then
      match row? line, row? r.document.tip.text, r.document.inner with
      | some dashes, some header, b :: outer =>
        if header.cells.length = dashes.cells.length then
          let above := if header.above.isEmpty then []
            else [Block.mk .paragraph (trimWhite (unescapeBars header.above)) [] false]
          let head := Block.mk (.tableRow true) [] (header.cells.map cell) false
          let table : OpenBlock :=
            ⟨.table (dashes.cells.map cellAlignment), [], [head], b.endsBlank⟩
          let d := { r.document with inner := outer }.mapTip (·.addBlocks above)
          some { r with document := d.push table, line := r.line.dropAll }
        else refuse
      | _, _, _ => refuse
    else none
  | _ => none
where
  /-- Go on with the paragraph, which no later line will be the dashes for. -/
  refuse : Option Reading :=
    some { r with document := r.document.mapTip ({ · with kind := .paragraph true }) }

/-- Add a row to a table. -/
def startRow? (r : Reading) : Option Reading :=
  match r.kind with
  | .table alignments =>
    if r.line.isBlank then none
    else
      (row? (r.line.text ++ ['\n'])).map fun row =>
        let count := alignments.length
        let cells := (row.cells.take count ++ List.replicate (count - row.cells.length) []).map cell
        let r := r.openBlock .tableRow r.line.dropAll
        { r with document := r.document.mapTip (·.addBlocks cells.reverse) }
  | _ => none

/-- Begin a block.  In a paragraph that may go on `lazily` there is no indented code.  Lists are
nested less than a hundred blocks deep. -/
def startBlock? (lazily : Bool) (depth : Nat) (r : Reading) : Option Reading :=
  if 4 ≤ r.line.indent then r.startCode? lazily
  else
    r.startQuote? <|> r.startHeading? <|> r.startFence? <|> r.startHtml? <|> r.underline? <|>
      r.startBreak? <|> (if depth < 100 then r.startItem? else none) <|> r.startTable? <|>
      r.startRow?

/-- Begin blocks, at most `most`, until one takes the rest of the line as text. -/
def startBlocks (most depth : Nat) (lazily : Bool) (r : Reading) : Reading :=
  match most with
  | 0 => r
  | most + 1 =>
    match if r.kind.isLiteral then none else r.startBlock? lazily depth with
    | none => r
    | some r => if r.kind.takesText then r else startBlocks most (depth + 1) false r

/-- Begin all blocks that the line begins.  Each takes at least one character, apart from the last
ones. -/
def startAll (r : Reading) : Reading :=
  let tip := r.dangling.headD r.document.tip
  r.startBlocks (r.line.rest.length + 2) 1 tip.kind.isParagraph

/-- Remember whether a blank line ends the innermost block that the line belongs to, and the last
block in it. -/
def markBlank (r : Reading) : Reading :=
  let blank := r.line.isBlank
  let d := r.document.markEnd (blank && r.kind.endsWithBlank r.fresh)
  if blank then
    match r.dangling.reverse with
    | [] => { r with document := d.mapTip OpenBlock.markLastChild }
    | b :: inner =>
      { r with document := d, dangling := ({ b with endsBlank := true } :: inner).reverse }
  else { r with document := d }

/-- Add what is left of the line to the innermost open block, in which no block dangles. -/
def addText (r : Reading) : OpenDocument :=
  let d := r.document
  let line := r.line
  match d.tip.kind with
  | .indentedCode => d.addLine line.remaining
  | .fencedCode _ => d.addLine line.remaining
  | .html kind =>
    let d := d.addLine line.remaining
    if kind.endsWith line.text then d.closeTip [] else d
  | .heading _ => if line.isBlank then d else d.addLine (dropClosingHashes line.text)
  | .paragraph _ => if line.isBlank then d else d.addLine line.dropIndent.remaining
  | _ =>
    if line.isBlank then d
    else (r.openBlock (.paragraph false) line).document.addLine line.dropIndent.remaining

/-- Read what is left of the line. -/
def finish (r : Reading) : OpenDocument :=
  let r := r.markBlank
  match r.dangling with
  | [] => r.addText
  | tip :: outer =>
    if tip.kind.isParagraph && !r.line.isBlank && !r.fresh then
      let inner := tip.addLine r.line.remaining :: outer ++ r.document.inner
      { r.document with inner }
    else r.closeDangling.addText

end Reading

/-- Read a line. -/
def OpenDocument.readLine (d : OpenDocument) (s : Text) : OpenDocument :=
  let r := (Reading.start d s).follow d.inner.reverse
  if r.closing then r.document.closeTip [] else r.startAll.finish

end Markdown

end Gemtext
