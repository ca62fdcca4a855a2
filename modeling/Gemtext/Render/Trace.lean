import Gemtext.Render.Renderer

/-!
# Tracing the callbacks

A renderer that records the calls it receives.  It answers the `n`th call with the name of the
callback and the number `n` between angle brackets, so that the arguments of a later call show
which calls produced them.  Entering a heading is not recorded.
-/

namespace Gemtext

/-- A recorded call with its arguments; contents are recorded as their plain texts. -/
inductive Call where
  | text (s : Text)
  | softBreak
  | lineBreak
  | emphasis (content : Text)
  | strong (content : Text)
  | code (s : Text)
  | htmlInline (s : Text)
  | link (url content inner : Text)
  | image (src alt : Text)
  | paragraph (content : Text)
  | blockText (content : Text)
  | heading (content : Text) (level : Nat)
  | thematicBreak
  | codeBlock (code : Text) (info : Option Text)
  | blockQuote (content : Text)
  | htmlBlock (s : Text)
  | listItem (content : Text) (level : Nat)
  | taskListItem (content : Text) (level : Nat) (checked : Bool)
  | list (items : List (Text × Text)) (ordered : Bool) (level start : Nat)
  | tableCell (content : Text) (alignment : Alignment) (head : Bool)
  | tableHead (cells : Text)
  | tableRow (cells : Text)
  | table
  deriving DecidableEq, Repr

/-- The name of the callback. -/
def Call.name : Call → String
  | text _ => "text"
  | softBreak => "soft_break"
  | lineBreak => "linebreak"
  | emphasis _ => "emphasis"
  | strong _ => "strong"
  | code _ => "codespan"
  | htmlInline _ => "inline_html"
  | link .. => "link"
  | image .. => "image"
  | paragraph _ => "paragraph"
  | blockText _ => "block_text"
  | heading .. => "heading"
  | thematicBreak => "thematic_break"
  | codeBlock .. => "block_code"
  | blockQuote _ => "block_quote"
  | htmlBlock _ => "block_html"
  | listItem .. => "list_item"
  | taskListItem .. => "task_list_item"
  | list .. => "list"
  | tableCell .. => "table_cell"
  | tableHead _ => "table_head"
  | tableRow _ => "table_row"
  | table => "table"

namespace Trace

/-- Record a call and answer with its mark. -/
def record (call : Call) : StateM (List Call) Content := fun calls =>
  (Content.ofText
      ('<' :: call.name.toList ++ Text.ofNat (calls.length + 1) ++ ['>']),
    calls ++ [call])

end Trace

open Trace in
/-- The renderer that records its calls. -/
def traceRenderer : Renderer (List Call) where
  text s := record (.text s)
  softBreak := record .softBreak
  lineBreak := record .lineBreak
  emphasis content := record (.emphasis content.plainText)
  strong content := record (.strong content.plainText)
  code s := record (.code s)
  htmlInline s := record (.htmlInline s)
  link url content inner := record (.link url content.plainText inner)
  image src alt := record (.image src alt)
  paragraph content := record (.paragraph content.plainText)
  blockText content := record (.blockText content.plainText)
  enterHeading := pure ()
  heading content level := record (.heading content.plainText level)
  thematicBreak := record .thematicBreak
  codeBlock code info := record (.codeBlock code info)
  blockQuote content := record (.blockQuote content.plainText)
  htmlBlock s := record (.htmlBlock s)
  listItem content level := record (.listItem content.plainText level)
  taskListItem content level checked := record (.taskListItem content.plainText level checked)
  list items ordered level start :=
    let texts := items.map fun e => (e.content.plainText, e.nested.plainText)
    record (.list texts ordered level start)
  tableCell content alignment head := record (.tableCell content.plainText alignment head)
  tableHead cells := record (.tableHead cells.plainText)
  tableRow cells := record (.tableRow cells.plainText)
  table := fun calls =>
    let (mark, calls) := record .table calls
    (.ok mark, calls)

end Gemtext
