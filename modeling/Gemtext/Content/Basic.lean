import Gemtext.Text.Basic

/-!
# Rendered content

What rendering produces before the final layout is known: characters, with structure marks in
between.  A mark never hides inside text, so the layout passes in `Gemtext.Layout` can decide
about paragraph spacing, link lines and hard breaks once the whole document is there.

A `Content` is a list of atoms, so putting two contents one after the other is `++`, and how a
text was cut into pieces on the way leaves no trace.  `Gemtext.Content.Fragment` groups the atoms
into maximal texts.
-/

namespace Gemtext

/-- A gemtext link line: a target and an optional label. -/
structure LinkLine where
  url : Text
  label : Option Text
  deriving DecidableEq, Repr

namespace LinkLine

/-- The link line for `url` and `label`, both trimmed; an empty label is no label. -/
def ofTrimmed (url : Text) (label : Option Text) : LinkLine where
  url := url.trim
  label := (label.map Text.trim).filter (!·.isEmpty)

/-- The line as it is written in a document. -/
def print (line : LinkLine) : Text :=
  match line.label with
  | none => "=> ".toList ++ line.url
  | some label => "=> ".toList ++ line.url ++ ' ' :: label

end LinkLine

/-- One unit of rendered content. -/
inductive Atom where
  /-- A character of text. -/
  | char (c : Char)
  /-- Opens or closes a paragraph region; the boundaries of a document pair up in order. -/
  | boundary
  /-- A link line, which ends up on a line of its own. -/
  | link (line : LinkLine)
  /-- A line break that survives inside a paragraph. -/
  | hardBreak
  /-- Ends one cell of a table row. -/
  | cellEnd
  deriving DecidableEq, Repr

namespace Atom

/-- Whether the atom is a blank character. -/
def isBlank : Atom → Bool
  | char c => Gemtext.isBlank c
  | _ => false

/-- Whether the atom is a link line. -/
def isLink : Atom → Bool
  | link _ => true
  | _ => false

/-- The atom as it is written when it stands alone. -/
def print : Atom → Text
  | char c => [c]
  | link line => line.print
  | hardBreak => ['\n']
  | boundary => []
  | cellEnd => []

end Atom

/-- Rendered content: its atoms in order. -/
abbrev Content := List Atom

namespace Content

/-- The content that is nothing but text. -/
def ofText (s : Text) : Content :=
  s.map Atom.char

/-- The content with text put before and after it. -/
def wrapped (c : Content) (before after : Text) : Content :=
  ofText before ++ c ++ ofText after

/-- The characters of the content; every other atom is left out. -/
def plainText (c : Content) : Text :=
  c.filterMap fun
    | .char x => some x
    | _ => none

/-- The text that a reader sees in place of the content: a link line shows its label, or else
its target, and a hard break is a newline. -/
def visibleText (c : Content) : Text :=
  c.flatMap fun
    | .char x => [x]
    | .link line => line.label.getD line.url
    | .hardBreak => ['\n']
    | .boundary => []
    | .cellEnd => []

/-- The link lines of the content, in order. -/
def linkLines (c : Content) : Content :=
  c.filter Atom.isLink

/-- The content with newlines in place of paragraph boundaries and hard breaks. -/
def flattenBlocks (c : Content) : Content :=
  c.map fun
    | .boundary => .char '\n'
    | .hardBreak => .char '\n'
    | atom => atom

/-- Drop leading blank characters. -/
def trimStart (c : Content) : Content :=
  c.dropWhile Atom.isBlank

/-- Drop trailing blank characters. -/
def trimEnd (c : Content) : Content :=
  (c.reverse.dropWhile Atom.isBlank).reverse

/-- Drop blank characters at both ends. -/
def trim (c : Content) : Content :=
  trimEnd (trimStart c)

/-- Whether the content is nothing but blank characters; the empty content is. -/
def isBlank (c : Content) : Bool :=
  c.all Atom.isBlank

/-- Read every `\r\n` of the text as `\n`.  A mark between the two characters keeps them apart. -/
def unifyNewlines : Content → Content
  | [] => []
  | .char '\r' :: .char '\n' :: rest => .char '\n' :: unifyNewlines rest
  | atom :: rest => atom :: unifyNewlines rest

/-- The pieces between the occurrences of `sep`; there is always at least one. -/
def splitOn (sep : Atom) : Content → List Content
  | [] => [[]]
  | atom :: rest =>
    if atom = sep then [] :: splitOn sep rest
    else
      match splitOn sep rest with
      | [] => [[atom]]
      | piece :: pieces => (atom :: piece) :: pieces

/-- The lines of the content.  Marks stay on the line they stand on, and a last piece that is
empty is no line. -/
def lines (c : Content) : List Content :=
  let pieces := splitOn (.char '\n') (unifyNewlines c)
  match pieces.getLast? with
  | some [] => pieces.dropLast
  | _ => pieces

/-- The pieces in order, with the text `sep` between each two. -/
def joinWith (sep : Text) : List Content → Content
  | [] => []
  | [piece] => piece
  | piece :: pieces => piece ++ ofText sep ++ joinWith sep pieces

/-- The cells of a table row: what stands before each cell end.  Anything after the last cell
end belongs to no cell. -/
def cells : Content → List Content
  | [] => []
  | atom :: rest =>
    if atom = .cellEnd then [] :: cells rest
    else
      match cells rest with
      | [] => []
      | cell :: more => (atom :: cell) :: more

end Content

end Gemtext
