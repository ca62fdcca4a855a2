import Gemtext.Markdown.Node
import Gemtext.Markdown.Scan

/-!
# Rows of tables

A line is a row of a table if it is cut into cells by bars.  A bar after a backslash belongs to
its cell.  The line under the header consists of dashes, with colons for the alignments.
-/

namespace Gemtext

namespace Markdown

/-- Whether the character may stand between the parts of a row. -/
def isRowSpace (c : Char) : Bool :=
  c == ' ' || c == '\t' || c == '\x0b' || c == '\x0c'

/-- Whether the text is empty or ends its line. -/
def atLineEnd (s : Text) : Bool :=
  match s with
  | [] => true
  | c :: _ => c == '\n'

/-- A cell up to the next bar or line end, and what follows.  `read` is what was read of it, in
reverse. -/
def takeCell (read : Text) : Text → Text × Text
  | [] => (read.reverse, [])
  | '\\' :: '|' :: rest => takeCell ('|' :: '\\' :: read) rest
  | c :: rest =>
    if c = '|' || c = '\n' || c = '\r' then (read.reverse, c :: rest)
    else takeCell (c :: read) rest

/-- Read escaped bars as bars. -/
def unescapeBars : Text → Text
  | '\\' :: '|' :: rest => '|' :: unescapeBars rest
  | c :: rest => c :: unescapeBars rest
  | [] => []

/-- Drop a bar and the spaces after it. -/
def dropBar (s : Text) : Text :=
  match s with
  | '|' :: rest => rest.dropWhile isRowSpace
  | _ => s

/-- The cells of a row and the lines before it. -/
structure Row where
  /-- The lines above the row. -/
  above : Text
  cells : List Text
  deriving DecidableEq, Repr

/-- Read cells, at most `most`.  The row began behind `above`; `cells` were read of it, the last
one first; `read` is all that was read, in reverse. -/
def readCells? (most : Nat) (above : Text) (cells : List Text) (read rest : Text) : Option Row :=
  match most with
  | 0 => none
  | most + 1 =>
    if rest.isEmpty then finish rest above cells
    else
      let (cell, behind) := takeCell [] rest
      let barred := behind.head? = some '|'
      let cells := if cell.isEmpty && !barred then cells
        else trimWhite (unescapeBars cell) :: cells
      let go (above : Text) (cells : List Text) (behind : Text) : Option Row :=
        readCells? most above cells
          ((rest.take (rest.length - behind.length)).reverse ++ read) behind
      if barred then go above cells (dropBar behind)
      else
        match behind.dropWhile isRowSpace with
        | '\n' :: [] => finish [] above cells
        | '\n' :: next =>
          -- the row ends here, so it was a line above the one that counts
          let lines := ((rest.take (rest.length - next.length)).reverse ++ read).reverse
          go lines [] (dropBar next)
        | _ => finish behind above cells
where
  /-- The row, if all was read and it has cells. -/
  finish (rest above : Text) (cells : List Text) : Option Row :=
    if rest.isEmpty && !cells.isEmpty then some ⟨above, cells.reverse⟩ else none

/-- The row that a text ends with; it may have further lines above it. -/
def row? (s : Text) : Option Row :=
  let start := dropBar s
  readCells? (s.length + 1) [] [] (s.take (s.length - start.length)).reverse start

/-- What follows the dashes of one column, with colons and spaces around them. -/
def dashes? (s : Text) : Option Text :=
  let colon (s : Text) : Text :=
    match s with
    | ':' :: rest => rest
    | _ => s
  match colon (s.dropWhile isRowSpace) with
  | '-' :: rest => some ((colon (rest.dropWhile (· == '-'))).dropWhile isRowSpace)
  | _ => none

/-- Whether dashes for further columns, at most `most`, go on to the end of the line. -/
def columnsFollow (most : Nat) (s : Text) : Bool :=
  match most with
  | 0 => false
  | most + 1 =>
    match s with
    | '|' :: rest =>
      atLineEnd (rest.dropWhile isRowSpace) || (dashes? rest).any (columnsFollow most)
    | _ => atLineEnd s

/-- Whether the line is the one under the header of a table. -/
def isDelimiterRow (line : Text) : Bool :=
  let start :=
    match line with
    | '|' :: rest => rest
    | _ => line
  (dashes? start).any (columnsFollow line.length)

/-- The alignment that a cell under the header asks for. -/
def cellAlignment (cell : Text) : ColumnAlignment :=
  match cell.head? == some ':', cell.getLast? == some ':' with
  | true, true => .center
  | true, false => .left
  | false, true => .right
  | false, false => .none

end Markdown

end Gemtext
