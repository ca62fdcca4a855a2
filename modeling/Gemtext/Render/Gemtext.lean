import Gemtext.Link.Target
import Gemtext.Render.Footnotes
import Gemtext.Render.Renderer
import Gemtext.Table.Draw

/-!
# The gemtext renderer

Inline elements become text, and block elements are set between paragraph boundaries or end with
a blank line.  Links become link lines or footnotes, as the link mode asks for.

In the modes that keep footnotes with their paragraph, they follow the paragraph, or stand before
the next heading.  A paragraph that is nothing but one link becomes its link line.
-/

namespace Gemtext

/-- What the renderer remembers between callbacks. -/
structure RenderState where
  footnotes : Footnotes
  /-- The table whose rows are being rendered. -/
  table : Option Table
  /-- The alignments of the cells since the last row. -/
  alignments : List Alignment
  /-- The link lines of the cells since the last table. -/
  tableLinks : Content
  /-- How many footnotes waited when the current heading began. -/
  headingMark : Nat

/-- The state before anything is rendered. -/
def RenderState.initial : RenderState where
  footnotes := .empty
  table := none
  alignments := []
  tableLinks := []
  headingMark := 0

namespace Render

/-- The content of a boundary, `inner`, and a boundary. -/
def paragraphRegion (inner : Content) : Content :=
  .boundary :: inner ++ [.boundary]

/-- The link line of the footnote with the given number. -/
def numberedLine (number : Nat) (note : Footnote) : LinkLine :=
  .ofTrimmed note.url (some (Text.ofNat number ++ ": ".toList ++ note.url))

/-- The link line of a footnote in the given mode. -/
def footnoteLine (mode : LinkMode) (number : Nat) (note : Footnote) : LinkLine :=
  match mode with
  | .copy => .ofTrimmed note.url (some note.text)
  | _ => numberedLine number note

/-- The link line of a footnote that stands alone: its text is left out if it is the target. -/
def plainLine (note : Footnote) : LinkLine :=
  .ofTrimmed note.url (if note.text = note.url then none else some note.text)

/-- The link lines of footnotes, the first of which has the number `first`. -/
def footnoteLines (mode : LinkMode) (first : Nat) (notes : List Footnote) : Content :=
  (notes.zipIdx first).map fun (note, number) => .link (footnoteLine mode number note)

/-- Hand out the link lines of up to `limit` footnotes. -/
def flushFootnotes (c : Conversion) (limit : Nat) : StateM RenderState Content := fun s =>
  if c.links.usesFootnotes then
    (footnoteLines c.links s.footnotes.first (s.footnotes.oldest limit),
      { s with footnotes := s.footnotes.drop limit })
  else ([], s)

/-- Hand out the link lines of all footnotes that wait. -/
def renderFootnotes (c : Conversion) : StateM RenderState Content := fun s =>
  flushFootnotes c s.footnotes.pending.length s

/-- The link lines of the footnotes that still wait when the document is rendered. -/
def finish (c : Conversion) : StateM RenderState Content :=
  renderFootnotes c

/-- Whether the text of a paragraph is exactly the one footnote that waits. -/
def isSingleLink (c : Conversion) (f : Footnotes) (text : Text) : Bool :=
  match f.pending with
  | [only] =>
    match c.links with
    | .paragraph => text == only.text ++ '[' :: Text.ofNat f.counter ++ [']']
    | .copy => text == only.text
    | _ => false
  | _ => false

/-- Text with a marker on both sides, unless the output is plain. -/
def marked (c : Conversion) (marker : Text) (content : Content) : Content :=
  if c.plain then content else content.wrapped marker marker

/-- A code span. -/
def codeSpan (c : Conversion) (code : Text) : Content :=
  Content.ofText (if c.plain then code else '`' :: code ++ ['`'])

/-- HTML within a line. -/
def htmlInline (c : Conversion) (html : Text) : Content :=
  if c.plain || c.stripHtml then [] else Content.ofText html

/-- The label of a link: its rendered text, or else the bare text below it.  A label that is
empty or the target itself is none. -/
def linkLabel? (url : Text) (content : Content) (inner : Text) : Option Text :=
  let rendered := content.plainText.collapseBlank
  let label := if rendered.isEmpty then inner.collapseBlank else rendered
  if label.isEmpty || label == url then none else some label

/-- A link.  Targets within the document lead nowhere in gemtext, so such a link is its content,
as is every link when links are off. -/
def link (c : Conversion) (url : Text) (content : Content) (inner : Text) :
    StateM RenderState Content := fun s =>
  let url := url.trim
  if url.head? = some '#' || c.links = .off then
    (if content.isBlank then Content.ofText url else content, s)
  else
    let label := linkLabel? url content inner
    let target := c.resolveTarget url
    if c.links.usesFootnotes then
      let display := label.getD target
      let footnotes := s.footnotes.register ⟨target, display⟩
      let reference :=
        if c.links = .copy then display
        else display ++ '[' :: Text.ofNat footnotes.counter ++ [']']
      (Content.ofText reference ++ content.linkLines, { s with footnotes })
    else (.link (.ofTrimmed target label) :: content.linkLines, s)

/-- An image, which becomes a link line with its label and the image tag. -/
def image (c : Conversion) (src alt : Text) : Content :=
  let alt := alt.trim
  if c.links = .off then Content.ofText (if alt.isEmpty then src.trim else alt)
  else
    let label := Text.joinWith [' '] ([alt, c.imgTag.trim].filter (!·.isEmpty))
    [.link (.ofTrimmed (c.applyBaseUrl src.trim) (some label))]

/-- A paragraph, with its footnotes behind it if the mode asks for it. -/
def paragraph (c : Conversion) (content : Content) : StateM RenderState Content := fun s =>
  let single? :=
    if isSingleLink c s.footnotes content.plainText.trim then s.footnotes.demote? else none
  match single? with
  | some (note, footnotes) =>
    (paragraphRegion (.link (plainLine note) :: content.linkLines), { s with footnotes })
  | none =>
    if c.links.isParagraphScoped && !s.footnotes.pending.isEmpty then
      let (notes, s) := renderFootnotes c s
      (paragraphRegion content ++ paragraphRegion notes, s)
    else (paragraphRegion content, s)

/-- Remember how many footnotes wait before a heading. -/
def enterHeading : StateM RenderState Unit := fun s =>
  ((), { s with headingMark := s.footnotes.pending.length })

/-- The line of a heading, and a blank line. -/
def headingLine (content : Content) (level : Nat) : Content :=
  Content.ofText (List.replicate level '#' ++ [' ']) ++ content.trim ++ Content.ofText ['\n', '\n']

/-- A heading, with the footnotes that waited before it in front of it. -/
def heading (c : Conversion) (content : Content) (level : Nat) :
    StateM RenderState Content := fun s =>
  if c.links.isParagraphScoped && 0 < s.headingMark then
    let (notes, s) := flushFootnotes c s.headingMark { s with headingMark := 0 }
    (paragraphRegion notes ++ headingLine content level, s)
  else (headingLine content level, s)

/-- A line across the page. -/
def thematicBreak : Content :=
  Content.ofText (List.replicate 80 '-' ++ ['\n', '\n'])

/-- What opens and closes a block of preformatted lines. -/
def codeFence : Text :=
  ['`', '`', '`']

/-- A block of preformatted lines with a tag, and a blank line. -/
def preformatted (tag body : Text) : Content :=
  Content.ofText (codeFence ++ tag ++ '\n' :: body ++ '\n' :: codeFence ++ ['\n', '\n'])

/-- The text without one newline at its end. -/
def dropFinalNewline (s : Text) : Text :=
  (Text.dropEnd? ['\n'] s).getD s

/-- A code block.  Its tag is the info text, or else that of the options, and up to two newlines
at the end of the code are dropped. -/
def codeBlock (c : Conversion) (code : Text) (info : Option Text) : Content :=
  let tag := ((info.map Text.trim).filter (!·.isEmpty)).getD c.codeTag
  preformatted tag (dropFinalNewline (dropFinalNewline code))

/-- A block of HTML. -/
def htmlBlock (c : Conversion) (html : Text) : Content :=
  if c.stripHtml then Content.ofText ['\n'] else codeBlock c html (some "html".toList)

/-- Drop each empty line that follows an empty line. -/
def squeezeEmpty (afterEmpty : Bool) : List Content → List Content
  | [] => []
  | line :: lines =>
    if line.isEmpty && afterEmpty then squeezeEmpty true lines
    else line :: squeezeEmpty line.isEmpty lines

/-- A line of a quotation.  A line that begins with a link line is left as it is, since a link
line stands at the start of a line of its own. -/
def quoteLine (line : Content) : Content :=
  match line with
  | [] => [.char '>']
  | .link _ :: _ => line
  | _ => .char '>' :: .char ' ' :: line

/-- A quotation. -/
def blockQuote (content : Content) : Content :=
  let lines := (content.flattenBlocks.trim.lines).map Content.trim
  let quoted := (squeezeEmpty false lines).map quoteLine
  paragraphRegion (quoted.intersperse [.hardBreak]).flatten

/-- A list item: the lines of its content, joined by spaces. -/
def listItem (content : Content) : Content :=
  let lines := (content.flattenBlocks.lines.map Content.trim).filter (!·.isBlank)
  Content.joinWith [' '] lines ++ [.char '\n']

/-- The box of a task list item. -/
def checkbox (c : Conversion) (checked : Bool) : Text :=
  match c.checklist, checked with
  | true, true => ['■']
  | true, false => ['□']
  | false, true => "[x]".toList
  | false, false => "[ ]".toList

/-- A task list item, which begins with its box. -/
def taskListItem (c : Conversion) (content : Content) (checked : Bool) : Content :=
  listItem (Content.ofText (checkbox c checked ++ [' ']) ++ content.flattenBlocks.trim)

/-- The marker of the item with the given number. -/
def listMarker (ordered : Bool) (number : Nat) : Text :=
  if ordered then Text.ofNat number ++ ['.', ' '] else ['*', ' ']

/-- The lines of a list: each item on a line of its own, followed by the lines of its nested
lists, which are indented already. -/
def listLines (indent : Text) (ordered : Bool) (number : Nat) : List ListEntry → List Content
  | [] => []
  | entry :: entries =>
    (Content.ofText (indent ++ listMarker ordered number) ++ entry.content.trim) ::
      entry.nested.lines.filter (!·.isBlank) ++ listLines indent ordered (number + 1) entries

/-- A list, with its items indented by the number of lists around it. -/
def list (c : Conversion) (items : List ListEntry) (ordered : Bool) (level start : Nat) : Content :=
  Content.joinWith ['\n'] (listLines (Text.times (level - 1) c.indent) ordered start items) ++
    Content.ofText ['\n', '\n']

/-- A cell of a table.  Its link lines are kept for after the table. -/
def tableCell (content : Content) (alignment : Alignment) : StateM RenderState Content := fun s =>
  (Content.ofText content.visibleText.trim ++ [.cellEnd],
    { s with
      alignments := s.alignments ++ [alignment]
      tableLinks := s.tableLinks ++ content.linkLines })

/-- The texts of the cells of a row. -/
def cellTexts (cells : Content) : List Text :=
  cells.cells.map Content.plainText

/-- The name of the style that tables are drawn in. -/
def tableStyle (c : Conversion) : Text :=
  if c.asciiTable then "default".toList else "light".toList

/-- A table with the given header. -/
def startTable (c : Conversion) (header : List Text) (alignments : List Alignment) :
    Except TableError Table := do
  let t := (Table.empty c.measure).setMaxWidth c.maxTableWidth
  let t ← t.setStyle (tableStyle c)
  let t ← t.setHeader header
  let t ← t.setAlignments alignments
  t.setVerticalAlignments (header.map fun _ => .middle)

/-- Begin a table with its header.  A header that does not fit the alignments begins none. -/
def tableHead (c : Conversion) (cells : Content) : StateM RenderState Content := fun s =>
  let table :=
    match startTable c (cellTexts cells) s.alignments with
    | .ok table => some table
    | .error _ => none
  ([], { s with table, alignments := [] })

/-- Add a row to the table; one with another number of cells is skipped. -/
def tableRow (cells : Content) : StateM RenderState Content := fun s =>
  let table := s.table.map fun table =>
    match table.addRow (cellTexts cells) with
    | .ok longer => longer
    | .error _ => table
  ([], { s with table, alignments := [] })

/-- Draw the table, with the link lines of its cells behind it. -/
def table (c : Conversion) : StateM RenderState (Except TableError Content) := fun s =>
  match s.table with
  | none => (.ok [], { s with tableLinks := [] })
  | some table =>
    match table.draw with
    | .error cause => (.error cause, { s with table := none })
    | .ok drawn =>
      let links :=
        if s.tableLinks.isEmpty then [] else s.tableLinks ++ Content.ofText ['\n', '\n']
      (.ok (preformatted c.tableTag drawn ++ links), { s with table := none, tableLinks := [] })

end Render

open Render in
/-- The renderer for gemtext with the given options. -/
def gemtextRenderer (c : Conversion) : Renderer RenderState where
  text s := pure (Content.ofText s)
  softBreak := pure [.char '\n']
  lineBreak := pure [.hardBreak]
  emphasis content := pure (marked c ['*'] content)
  strong content := pure (marked c ['*', '*'] content)
  code s := pure (codeSpan c s)
  htmlInline s := pure (Render.htmlInline c s)
  link := Render.link c
  image src alt := pure (Render.image c src alt)
  paragraph := Render.paragraph c
  blockText content := pure (content ++ [.char '\n'])
  enterHeading := Render.enterHeading
  heading := Render.heading c
  thematicBreak := pure Render.thematicBreak
  codeBlock code info := pure (Render.codeBlock c code info)
  blockQuote content := pure (Render.blockQuote content)
  htmlBlock html := pure (Render.htmlBlock c html)
  listItem content _ := pure (Render.listItem content)
  taskListItem content _ checked := pure (Render.taskListItem c content checked)
  list items ordered level start := pure (Render.list c items ordered level start)
  tableCell content alignment _ := Render.tableCell content alignment
  tableHead := Render.tableHead c
  tableRow := Render.tableRow
  table := Render.table c

end Gemtext
