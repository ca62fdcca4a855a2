import Gemtext.Markdown.Scan

/-!
# Lines and columns

A document is read line by line, and a line is read from left to right: every block that it
belongs to takes its marker and indentation away from it.  A tab reaches to the next multiple of
four columns, so that a block may take only a part of it.

* `sourceLines` cuts a document into lines.
* `Line.indent` counts the columns of white space at the front, and `dropColumns` takes them away.
* `Line.remaining` is what is left, with a tab that was taken in part as spaces.
-/

namespace Gemtext

namespace Markdown

/-- The lines of a text without their endings, each of which is `\n`, `\r\n` or `\r`.  `read` is
what was read of the first one, in reverse.  No empty line follows the last ending. -/
def linesFrom (read : Text) : Text → List Text
  | [] => if read.isEmpty then [] else [read.reverse]
  | '\r' :: '\n' :: rest => read.reverse :: linesFrom [] rest
  | c :: rest =>
    if isLineEnd c then read.reverse :: linesFrom [] rest else linesFrom (c :: read) rest

/-- The lines of a document.  A byte order mark at its start is no part of it, and a null
character stands for the replacement character. -/
def sourceLines (source : Text) : List Text :=
  let source := (Text.dropStart? ['\ufeff'] source).getD source
  linesFrom [] (source.map fun c => if c.toNat = 0 then '\ufffd' else c)

/-- What is left of a line. -/
structure Line where
  rest : Text
  /-- The column at which `rest` begins. -/
  column : Nat
  /-- Whether `rest` begins with a tab of which some columns are taken. -/
  midTab : Bool
  deriving DecidableEq, Repr

namespace Line

/-- A line of which nothing is read. -/
def ofText (s : Text) : Line :=
  ⟨s, 0, false⟩

/-- The columns from the given one to the next multiple of four. -/
def tabWidth (column : Nat) : Nat :=
  4 - column % 4

/-- The columns of the white space at the front of a text that begins at a column. -/
def indentFrom (column : Nat) : Text → Nat
  | [] => 0
  | c :: rest =>
    if c = ' ' then 1 + indentFrom (column + 1) rest
    else if c = '\t' then tabWidth column + indentFrom (column + tabWidth column) rest
    else 0

/-- The columns of white space at the front. -/
def indent (l : Line) : Nat :=
  indentFrom l.column l.rest

/-- The text behind the white space at the front. -/
def text (l : Line) : Text :=
  dropSpaces l.rest

/-- Whether only white space is left. -/
def isBlank (l : Line) : Bool :=
  l.text.isEmpty

/-- Take away one column. -/
def dropColumn (l : Line) : Line :=
  match l.rest with
  | [] => l
  | c :: rest =>
    if c = '\t' && tabWidth l.column != 1 then ⟨l.rest, l.column + 1, true⟩
    else ⟨rest, l.column + 1, false⟩

/-- Take away `count` columns. -/
def dropColumns : Nat → Line → Line
  | 0, l => l
  | count + 1, l => dropColumns count l.dropColumn

/-- Take away columns of white space, at most `most`. -/
def dropIndentAtMost : Nat → Line → Line
  | 0, l => l
  | most + 1, l =>
    if l.rest.head?.any isSpaceOrTab then dropIndentAtMost most l.dropColumn else l

/-- Take away a space or a column of a tab, if there is one. -/
def dropPadding (l : Line) : Line :=
  dropIndentAtMost 1 l

/-- Take away the white space at the front. -/
def dropIndent (l : Line) : Line :=
  ⟨l.text, l.column + l.indent, false⟩

/-- Take away the white space at the front and the next `count` characters, which are no tabs. -/
def dropMarker (count : Nat) (l : Line) : Line :=
  ⟨l.text.drop count, l.column + l.indent + count, false⟩

/-- Take away everything. -/
def dropAll (l : Line) : Line :=
  ⟨[], l.column, false⟩

/-- What is left, with its line ending. -/
def remaining (l : Line) : Text :=
  (if l.midTab then Text.spaces (tabWidth l.column) ++ l.rest.drop 1 else l.rest) ++ ['\n']

end Line

end Markdown

end Gemtext
