import Gemtext.Markdown.Html
import Gemtext.Number.Decimal

/-!
# Where blocks begin and end

Scanners for the markers of blocks.  They look at what is left of a line behind its indent, without
the line ending.
-/

namespace Gemtext

namespace Markdown

/-- The level of a heading that begins with hash signs, and its text. -/
def headingStart? (s : Text) : Option (Nat × Text) :=
  let level := runLength '#' s
  let behind := s.drop level
  if 1 ≤ level && level ≤ 6 && behind.head?.all isSpaceOrTab then some (level, dropSpaces behind)
  else none

/-- The text of a heading without the hash signs that close it, which stand alone or behind white
space. -/
def dropClosingHashes (s : Text) : Text :=
  let s := dropEndWhite s
  let kept := Text.dropEndWhile (· == '#') s
  if kept.getLast?.all isSpaceOrTab then dropEndWhite kept else s

/-- The level of the heading that a line under a paragraph makes of it. -/
def underlineLevel? (s : Text) : Option Nat :=
  let underlined (c : Char) : Bool := (dropSpaces (s.drop (runLength c s))).isEmpty
  match s with
  | '=' :: _ => if underlined '=' then some 1 else none
  | '-' :: _ => if underlined '-' then some 2 else none
  | _ => none

/-- Whether the line is a thematic break: three or more of one character, and white space. -/
def isThematicBreak (s : Text) : Bool :=
  match s with
  | c :: _ =>
    ['*', '_', '-'].contains c && 3 ≤ s.count c && s.all fun d => d == c || isSpaceOrTab d
  | [] => false

/-- The line that opens a code block. -/
structure Fence where
  char : Char
  /-- How many of them there are. -/
  length : Nat
  /-- How far it is indented. -/
  indent : Nat
  deriving DecidableEq, Repr

/-- The fence that a line begins with, which is indented so far. -/
def fenceStart? (indent : Nat) (s : Text) : Option Fence :=
  match s with
  | c :: _ =>
    let length := runLength c s
    let fits := c == '~' || (c == '\x60' && !(s.drop length).contains c)
    if fits && 3 ≤ length then some ⟨c, length, indent⟩ else none
  | [] => none

/-- Whether the line closes the code block that a fence opened. -/
def Fence.closedBy (fence : Fence) (s : Text) : Bool :=
  let length := runLength fence.char s
  fence.length ≤ length && (dropSpaces (s.drop length)).isEmpty

/-- The kinds of HTML blocks; they end in different ways. -/
inductive HtmlKind where
  /-- An element whose content is no Markdown. -/
  | raw
  | comment
  | instruction
  | declaration
  | characterData
  /-- A tag of a block element, opening or closing. -/
  | block
  /-- Any tag that has a line of its own. -/
  | lone
  deriving DecidableEq, Repr

/-- The names of the elements whose content is no Markdown. -/
def rawElements : List Text :=
  (Text.splitOn ' ' "script pre textarea style".toList)

/-- The names of the block elements. -/
def blockElements : List Text :=
  Text.splitOn ' ' <| String.toList <|
    "address article aside base basefont blockquote body caption center col colgroup dd " ++
    "details dialog dir div dl dt fieldset figcaption figure footer form frame frameset h1 h2 " ++
    "h3 h4 h5 h6 head header hr html iframe legend li link main menu menuitem nav noframes ol " ++
    "optgroup option p param search section summary table tbody td tfoot th thead title tr " ++
    "track ul"

/-- Whether a text begins with one of the names, in any case, and what follows it is accepted. -/
def startsWithElement (names : List Text) (accept : Text → Bool) (s : Text) : Bool :=
  let name := s.takeWhile Char.isAlphanum
  names.contains (name.map Char.toLower) && accept (s.drop name.length)

/-- The kind of the HTML block that a line begins; a lone tag begins none in a paragraph. -/
def htmlStart? (inParagraph : Bool) (s : Text) : Option HtmlKind :=
  let ended (s : Text) : Bool := s.head?.all fun c => isSpaceChar c || c == '>'
  match s with
  | '<' :: rest =>
    if startsWithElement rawElements ended rest then some .raw
    else if "!--".toList.isPrefixOf rest then some .comment
    else if rest.head? = some '?' then some .instruction
    else if rest.head? = some '!' && (rest.drop 1).head?.any Char.isAlpha then some .declaration
    else if startsWithNoCase "![cdata[".toList rest then some .characterData
    else if startsWithElement blockElements (fun s => ended s || ['/', '>'].isPrefixOf s)
        ((Text.dropStart? ['/'] rest).getD rest) then some .block
    else if !inParagraph &&
        (tag? rest).any (·.all fun c => isSpaceOrTab c || c == '\x0c') then some .lone
    else none
  | _ => none

/-- Whether the HTML block ends with a line that has the given text.  Blocks of the last two kinds
end at a blank line instead. -/
def HtmlKind.endsWith (kind : HtmlKind) (s : Text) : Bool :=
  let holds (target : Text) : Bool := (after? target (s.map Char.toLower)).isSome
  match kind with
  | raw => rawElements.any fun name => holds ('<' :: '/' :: name ++ ['>'])
  | comment => holds "-->".toList
  | instruction => holds "?>".toList
  | declaration => holds ">".toList
  | characterData => holds "]]>".toList
  | block => false
  | lone => false

/-- What the items of one list are marked with. -/
inductive ListMarker where
  | bullet (char : Char)
  /-- A number with a character behind it. -/
  | number (delimiter : Char)
  deriving DecidableEq, Repr

/-- The marker of an item. -/
structure ItemStart where
  marker : ListMarker
  /-- The number of the item; one for a bullet. -/
  number : Nat
  /-- How many characters the marker has. -/
  width : Nat
  deriving DecidableEq, Repr

/-- The marker that a line begins with.  In a paragraph it must have text behind it, and no number
but one. -/
def itemStart? (inParagraph : Bool) (s : Text) : Option ItemStart :=
  let found : Option (ItemStart × Text) :=
    match s with
    | [] => none
    | c :: rest =>
      if c = '*' || c = '-' || c = '+' then some (⟨.bullet c, 1, 1⟩, rest)
      else
        let digits := (s.takeWhile isDecimalDigit).take 9
        match s.drop digits.length with
        | d :: rest =>
          if !digits.isEmpty && (d == '.' || d == ')') then
            some (⟨.number d, digitsValue digits, digits.length + 1⟩, rest)
          else none
        | [] => none
  match found with
  | none => none
  | some (start, rest) =>
    let allowed := !inParagraph || (start.number == 1 && !(dropSpaces rest).isEmpty)
    if rest.head?.all isSpaceChar && allowed then some start else none

end Markdown

end Gemtext
