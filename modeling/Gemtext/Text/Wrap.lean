import Gemtext.Number.Basic
import Gemtext.Text.Basic

/-!
# Measuring and wrapping lines

Widths are counted in columns through a measure on characters.  A tab moves to the next multiple
of eight.  `wrap` fills lines greedily with words: it keeps the blank stretch between two words
of one line, drops the blanks around every line, and breaks only a word that is wider than the
line.
-/

namespace Gemtext

/-- The number of columns that a character takes. -/
abbrev Measure := Char → Nat

namespace Text

/-- The width of a text in which tabs are characters like any other. -/
def width (measure : Measure) (s : Text) : Nat :=
  total (s.map measure)

/-- The next tab stop after `column`. -/
def nextTabStop (column : Nat) : Nat :=
  (column / 8 + 1) * 8

/-- The column reached by a line that starts at `column`. -/
def columnAfter (measure : Measure) (column : Nat) : Text → Nat
  | [] => column
  | c :: rest =>
    columnAfter measure (if c = '\t' then nextTabStop column else column + measure c) rest

/-- The width of the widest line of a text, with tabs moving to the next stop. -/
def cellWidth (measure : Measure) (s : Text) : Nat :=
  ((splitOn '\n' s).map (columnAfter measure 0)).foldl max 0

/-- The line with spaces in place of its tabs.  `column` is where the text begins. -/
def expandTabs (measure : Measure) (column : Nat) : Text → Text
  | [] => []
  | c :: rest =>
    if c = '\t' then
      spaces (nextTabStop column - column) ++ expandTabs measure (nextTabStop column) rest
    else c :: expandTabs measure (column + measure c) rest

/-- A word together with the blank characters before it. -/
structure GapWord where
  gap : Text
  word : Text
  deriving DecidableEq, Repr

/-- The words of the text, each with the blank characters before it. -/
def gapWords : Text → List GapWord
  | [] => []
  | c :: rest =>
    match gapWords rest with
    | [] => if isBlank c then [] else [⟨[], [c]⟩]
    | next :: more =>
      if isBlank c then ⟨c :: next.gap, next.word⟩ :: more
      else if next.gap.isEmpty then ⟨[], c :: next.word⟩ :: more
      else ⟨[], [c]⟩ :: next :: more

/-- Cut a word so that a piece takes a further character only if it still fits in `limit`
columns; a piece has at least one character.  `piece` is what the first piece already holds. -/
def breakWord (measure : Measure) (limit : Nat) (piece : Text) : Text → List Text
  | [] => [piece]
  | c :: rest =>
    if !piece.isEmpty && limit < width measure piece + measure c then
      piece :: breakWord measure limit [c] rest
    else breakWord measure limit (piece ++ [c]) rest

/-- Fill lines of `limit` columns with words, after a first line that already holds `line`. -/
def fillLines (measure : Measure) (limit : Nat) (line : Text) : List GapWord → List Text
  | [] => [line]
  | next :: rest =>
    let longer := line ++ next.gap ++ next.word
    if width measure longer ≤ limit then fillLines measure limit longer rest
    else
      let pieces := breakWord measure limit [] next.word
      line :: pieces.dropLast ++ fillLines measure limit (pieces.getLastD []) rest

/-- Wrap one line to `limit` columns, of which there is at least one.  A blank line gives no
line. -/
def wrap (measure : Measure) (limit : Nat) (line : Text) : List Text :=
  let limit := max limit 1
  match gapWords (expandTabs measure 0 line) with
  | [] => []
  | first :: rest =>
    let pieces := breakWord measure limit [] first.word
    pieces.dropLast ++ fillLines measure limit (pieces.getLastD []) rest

end Text

end Gemtext
