import Gemtext.Markdown.Emphasis
import Gemtext.Markdown.Html
import Gemtext.Markdown.Reference

/-!
# Reading the text of a paragraph

`readInlines` turns the text of a paragraph, a heading or a table cell into nodes.  It reads from
left to right and keeps what was read, the last piece first.  An opening bracket parts the pieces:
those behind it belong to the link or image that its closing bracket may complete.
-/

namespace Gemtext

namespace Markdown

/-- An opening bracket whose closing bracket is not read yet. -/
structure OpenBracket where
  /-- Whether it may begin an image. -/
  image : Bool
  /-- The text behind the bracket. -/
  inside : Text
  /-- Whether another bracket was opened inside it. -/
  nested : Bool
  /-- The pieces before the bracket, the last one first. -/
  before : List Inline

/-- How far the text of a paragraph is read. -/
structure InlineState where
  /-- What is left to read. -/
  rest : Text
  /-- The last two characters that were read, the last one first. -/
  previous : Text
  /-- The pieces behind the last open bracket, the last one first. -/
  pieces : List Inline
  /-- The open brackets, the last one first. -/
  brackets : List OpenBracket
  /-- Whether the open brackets that begin no image are inside of a link's text. -/
  noLinks : Bool

namespace InlineState

/-- The state before the text is read. -/
def start (s : Text) : InlineState :=
  ⟨s, [], [], [], false⟩

/-- Go on to `rest`, which follows `read`. -/
def moveTo (st : InlineState) (read rest : Text) : InlineState :=
  { st with rest, previous := (read.reverse ++ st.previous).take 2 }

/-- Go on to `rest`, which is an end of what is left to read. -/
def skipTo (st : InlineState) (rest : Text) : InlineState :=
  st.moveTo (st.rest.take (st.rest.length - rest.length)) rest

/-- Add a piece. -/
def push (st : InlineState) (piece : Inline) : InlineState :=
  { st with pieces := piece :: st.pieces }

/-- Add a node without children. -/
def pushLeaf (st : InlineState) (kind : NodeKind) : InlineState :=
  st.push (.node (.mk kind []))

/-- Add text. -/
def pushText (st : InlineState) (s : Text) : InlineState :=
  st.pushLeaf (.text s)

/-- Whether the last piece is a line break. -/
def afterLineBreak (st : InlineState) : Bool :=
  match st.pieces with
  | .node (.mk .lineBreak _) :: _ => true
  | _ => false

end InlineState

/-- The text that stands for a bracket from which no link was made. -/
def OpenBracket.toText (b : OpenBracket) : Text :=
  if b.image then ['!', '['] else ['[']

/-- The characters at which a plain stretch of text ends. -/
def isSpecial (c : Char) : Bool :=
  ['\n', '\r', '\x60', '\\', '&', '<', '*', '_', '[', ']', '!'].contains c

/-- The content of a code span: newlines are spaces, and one space is taken from both ends if the
content is not all spaces. -/
def codeContent (s : Text) : Text :=
  let spaced := s.map fun c => if c = '\n' then ' ' else c
  if s.any (· != ' ') && spaced.head? = some ' ' && spaced.getLast? = some ' ' then
    (spaced.drop 1).dropLast
  else spaced

/-- The content of a code span up to the next run of exactly `ticks` backticks, and what follows.
`run` backticks were read just before; `read` is what was read before them, in reverse. -/
def closeCode? (ticks run : Nat) (read : Text) : Text → Option (Text × Text)
  | [] => if run = ticks then some (read.reverse, []) else none
  | c :: rest =>
    if c = '\x60' then closeCode? ticks (run + 1) read rest
    else if run = ticks then some (read.reverse, c :: rest)
    else closeCode? ticks 0 (c :: (List.replicate run '\x60' ++ read)) rest

/-- The target in parentheses behind the text of a link, and what follows. -/
def inlineTarget? (s : Text) : Option (Text × Text) := do
  let opened ← Text.dropStart? ['('] s
  let (destination, behind) ← destination? (dropWhite opened)
  let spaced := dropWhite behind
  let afterTitle :=
    if spaced.length < behind.length then (title? spaced).getD spaced else spaced
  let rest ← Text.dropStart? [')'] (dropWhite afterTitle)
  pure (cleanTarget destination, rest)

namespace InlineState

/-- Read a line ending.  It is a hard break behind two spaces; the spaces and tabs after it are
dropped. -/
def readNewline (st : InlineState) : InlineState :=
  let kind : NodeKind := if st.previous = [' ', ' '] then .lineBreak else .softBreak
  (st.skipTo (dropSpaces ((lineEnd? st.rest).getD []))).pushLeaf kind

/-- Read a run of backticks, and the code span that it opens.  A run of more than eighty opens
none. -/
def readBackticks (st : InlineState) : InlineState :=
  let ticks := runLength '\x60' st.rest
  let behind := st.rest.drop ticks
  match if ticks ≤ 80 then closeCode? ticks 0 [] behind else none with
  | some (code, rest) => (st.skipTo rest).pushLeaf (.code (codeContent code))
  | none => (st.skipTo behind).pushText (List.replicate ticks '\x60')

/-- Read a backslash and what it escapes. -/
def readBackslash (st : InlineState) : InlineState :=
  let behind := st.rest.drop 1
  match behind with
  | [] => (st.skipTo behind).pushText ['\\']
  | c :: rest =>
    if isAsciiPunctuation c then (st.skipTo rest).pushText [c]
    else
      match lineEnd? behind with
      | some rest => (st.skipTo (dropSpaces rest)).pushLeaf .lineBreak
      | none => (st.skipTo behind).pushText ['\\']

/-- Read an ampersand, and the entity that it begins. -/
def readEntity (st : InlineState) : InlineState :=
  let behind := st.rest.drop 1
  match entity? behind with
  | some (text, rest) => (st.skipTo rest).pushText text
  | none => (st.skipTo behind).pushText ['&']

/-- A link whose text is the address it leads to. -/
def autolink (before address : Text) : Inline :=
  let text := unescapeEntities address
  .node (.mk (.link (before ++ text)) [.mk (.text text) []])

/-- Read an opening angle bracket, and the autolink or the HTML that it begins. -/
def readAngle (st : InlineState) : InlineState :=
  let behind := st.rest.drop 1
  match uriAutolink? behind with
  | some (uri, rest) => (st.skipTo rest).push (autolink [] uri)
  | none =>
    match emailAutolink? behind with
    | some (address, rest) => (st.skipTo rest).push (autolink "mailto:".toList address)
    | none =>
      match inlineHtml? behind with
      | some rest =>
        (st.skipTo rest).pushLeaf (.htmlInline (st.rest.take (st.rest.length - rest.length)))
      | none => (st.skipTo behind).pushText ['<']

/-- Read a run of asterisks or underscores. -/
def readRun (st : InlineState) (c : Char) : InlineState :=
  let length := runLength c st.rest
  let behind := st.rest.drop length
  let run :=
    DelimiterRun.between c length (st.previous.head?.getD '\n') (behind.head?.getD '\n')
  let st := st.skipTo behind
  if run.canOpen || run.canClose then st.push (.run run) else st.pushText run.toText

/-- Open a bracket. -/
def openBracket (st : InlineState) (image : Bool) (inside : Text) : InlineState :=
  let outer :=
    match st.brackets with
    | [] => []
    | b :: others => { b with nested := true } :: others
  { st.skipTo inside with
    pieces := []
    brackets := ⟨image, inside, false, st.pieces⟩ :: outer
    noLinks := st.noLinks && image }

/-- Read an exclamation mark, and the bracket that it begins an image with. -/
def readExclamation (st : InlineState) : InlineState :=
  match st.rest.drop 1 with
  | '[' :: '^' :: _ => (st.skipTo (st.rest.drop 1)).pushText ['!']
  | '[' :: inside => st.openBracket true inside
  | behind => (st.skipTo behind).pushText ['!']

/-- Give up on an open bracket: it becomes text in front of the pieces behind it. -/
def giveUp (st : InlineState) (b : OpenBracket) (others : List OpenBracket) : InlineState :=
  { st with
    pieces := st.pieces ++ .node (.mk (.text b.toText) []) :: b.before
    brackets := others }

/-- Make a link or an image of the pieces behind an open bracket. -/
def complete (st : InlineState) (b : OpenBracket) (others : List OpenBracket) (target : Text) :
    InlineState :=
  let kind : NodeKind := if b.image then .image target else .link target
  let node := Node.mk kind (resolveEmphasis st.pieces.reverse)
  { st with
    pieces := .node node :: b.before
    brackets := others
    noLinks := st.noLinks || !b.image }

/-- The target that a reference behind the text of a link leads to, and what follows.  Without a
label of its own the reference has the text as its label, if there is no bracket in it. -/
def referenceTarget? (references : List Reference) (b : OpenBracket) (behind : Text) :
    Option (Text × Text) := do
  let found := label? behind
  let rest := (found.map Prod.snd).getD behind
  let label ←
    match found with
    | some (c :: cs, _) => some (c :: cs)
    | _ =>
      if b.nested then found.map Prod.fst
      else some (b.inside.take (b.inside.length - (behind.length + 1)))
  let target ← findTarget? references (normalizeLabel label)
  pure (target, rest)

/-- Read a closing bracket, and the link or image that it completes. -/
def closeBracket (references : List Reference) (st : InlineState) : InlineState :=
  let behind := st.rest.drop 1
  match st.brackets with
  | [] => (st.skipTo behind).pushText [']']
  | b :: others =>
    let target? :=
      if !b.image && st.noLinks then none
      else (inlineTarget? behind).or (referenceTarget? references b behind)
    match target? with
    | some (target, rest) => (st.skipTo rest).complete b others target
    | none => ((st.skipTo behind).giveUp b others).pushText [']']

/-- Read a plain stretch of text, which has at least one character.  White space is dropped before
a line ending and after a line break. -/
def readPlain (st : InlineState) (c : Char) (rest : Text) : InlineState :=
  let text := c :: rest.takeWhile (!isSpecial ·)
  let behind := rest.dropWhile (!isSpecial ·)
  let ended := if behind.head?.any isLineEnd then dropEndWhite text else text
  let kept := if st.afterLineBreak then dropWhite ended else ended
  (st.moveTo text behind).pushText kept

/-- Read one construct. -/
def step (references : List Reference) (st : InlineState) : InlineState :=
  match st.rest with
  | [] => st
  | c :: rest =>
    match c with
    | '\n' => st.readNewline
    | '\r' => st.readNewline
    | '\x60' => st.readBackticks
    | '\\' => st.readBackslash
    | '&' => st.readEntity
    | '<' => st.readAngle
    | '*' => st.readRun '*'
    | '_' => st.readRun '_'
    | '[' => st.openBracket false rest
    | ']' => st.closeBracket references
    | '!' => st.readExclamation
    | c => st.readPlain c rest

/-- Read at most `most` constructs. -/
def steps (references : List Reference) : Nat → InlineState → InlineState
  | 0, st => st
  | most + 1, st => if st.rest.isEmpty then st else steps references most (st.step references)

/-- Give up on all open brackets: the pieces of the whole text, the last one first. -/
def allPieces (pieces : List Inline) : List OpenBracket → List Inline
  | [] => pieces
  | b :: others => allPieces (pieces ++ .node (.mk (.text b.toText) []) :: b.before) others

end InlineState

/-- The nodes of a text.  Every construct takes at least one character, so reading as many as there
are characters reads them all. -/
def readInlines (references : List Reference) (s : Text) : List Node :=
  let s := dropEndWhite s
  let st := (InlineState.start s).steps references s.length
  resolveEmphasis (InlineState.allPieces st.pieces st.brackets).reverse

end Markdown

end Gemtext
