/-!
# Text as a list of characters

Documents are handled as lists of Unicode scalar values, so that every operation is a recursion
on the list.  This file holds the class of blank characters and the operations built on it:
trimming, words, and cutting a text at a character or at its line ends.

* `trim` removes blank characters from both ends.
* `words` are the maximal blank-free stretches, and `collapseBlank` joins them by single spaces.
* `splitOn` cuts at every occurrence of one character; `joinWith` undoes it.
* `lines` reads `\n` and `\r\n` as line terminators, so a final terminator opens no further line.
-/

namespace Gemtext

/-- A text: its characters in order. -/
abbrev Text := List Char

/-- The characters with the Unicode property White_Space. -/
def isBlank (c : Char) : Bool :=
  let n := c.toNat
  (9 ≤ n && n ≤ 13) || n == 0x20 || n == 0x85 || n == 0xA0 || n == 0x1680 ||
    (0x2000 ≤ n && n ≤ 0x200A) || n == 0x2028 || n == 0x2029 || n == 0x202F || n == 0x205F ||
    n == 0x3000

namespace Text

/-- Drop the longest suffix whose characters all satisfy `p`. -/
def dropEndWhile (p : Char → Bool) (s : Text) : Text :=
  (s.reverse.dropWhile p).reverse

/-- Drop leading blank characters. -/
def trimStart (s : Text) : Text :=
  s.dropWhile isBlank

/-- Drop trailing blank characters. -/
def trimEnd (s : Text) : Text :=
  s.dropEndWhile isBlank

/-- Drop blank characters at both ends. -/
def trim (s : Text) : Text :=
  trimEnd (trimStart s)

/-- Whether every character is blank; the empty text is. -/
def allBlank (s : Text) : Bool :=
  s.all isBlank

/-- The pieces between the occurrences of `sep`; there is always at least one. -/
def splitOn (sep : Char) : Text → List Text
  | [] => [[]]
  | c :: rest =>
    if c = sep then [] :: splitOn sep rest
    else
      match splitOn sep rest with
      | [] => [[c]]
      | piece :: pieces => (c :: piece) :: pieces

/-- The pieces in order, with `sep` between each two. -/
def joinWith (sep : Text) : List Text → Text
  | [] => []
  | [piece] => piece
  | piece :: pieces => piece ++ sep ++ joinWith sep pieces

/-- The blank-free stretches of the text, in order. -/
def words : Text → List Text
  | [] => []
  | c :: rest =>
    if isBlank c then words rest
    else
      match rest with
      | [] => [[c]]
      | d :: _ =>
        if isBlank d then [c] :: words rest
        else
          match words rest with
          | [] => [[c]]
          | word :: more => (c :: word) :: more

/-- The words of the text, separated by single spaces. -/
def collapseBlank (s : Text) : Text :=
  joinWith [' '] (words s)

/-- Read every `\r\n` as `\n`. -/
def unifyNewlines : Text → Text
  | [] => []
  | '\r' :: '\n' :: rest => '\n' :: unifyNewlines rest
  | c :: rest => c :: unifyNewlines rest

/-- The lines of the text.  Both `\n` and `\r\n` end a line, and no empty line follows the last
terminator. -/
def lines (s : Text) : List Text :=
  let pieces := splitOn '\n' (unifyNewlines s)
  match pieces.getLast? with
  | some [] => pieces.dropLast
  | _ => pieces

/-- The rest of the text after `start`, if it begins with it. -/
def dropStart? (start : Text) (s : Text) : Option Text :=
  if start.isPrefixOf s then some (s.drop start.length) else none

/-- The text before `tail`, if it ends with it. -/
def dropEnd? (tail : Text) (s : Text) : Option Text :=
  if tail.isSuffixOf s then some (s.take (s.length - tail.length)) else none

/-- `count` spaces. -/
def spaces (count : Nat) : Text :=
  List.replicate count ' '

/-- `count` copies of the text in a row. -/
def times (count : Nat) (s : Text) : Text :=
  (List.replicate count s).flatten

/-- The decimal digits of a natural number. -/
def ofNat (n : Nat) : Text :=
  Nat.toDigits 10 n

end Text

end Gemtext
