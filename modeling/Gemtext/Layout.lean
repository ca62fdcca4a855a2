import Gemtext.Content.Basic

/-!
# Layout: from rendered content to the document

`layout` turns the marks of a rendered content into lines of text, in fixed order.

1. Paragraph regions (between paired boundaries, an unmatched one running to the end) are
   trimmed, their newlines become spaces, and a blank line follows each (`layoutParagraphs`).
2. Hard breaks become newlines (`resolveHardBreaks`).
3. The trailing content, which holds the remaining footnotes, is put behind.
4. Every link line gets a line of its own (`isolateLinks`).
5. The line after a link line loses its leading blank characters, except inside a fence
   (`stripAfterLinks`).
6. The document is trimmed (`trimDocument`), and three or more newlines in a row become two
   (`limitNewlines`).
-/

namespace Gemtext

namespace Content

/-- Replace each newline of the text, `\n` or `\r\n`, by a space. -/
def newlinesToSpaces : Content → Content
  | [] => []
  | .char '\r' :: .char '\n' :: rest => .char ' ' :: newlinesToSpaces rest
  | atom :: rest =>
    (if atom = .char '\n' then .char ' ' else atom) :: newlinesToSpaces rest

/-- A paragraph region, laid out: trimmed, on one line, and followed by a blank line. -/
def layoutParagraph (region : Content) : Content :=
  region.trim.newlinesToSpaces ++ ofText ['\n', '\n']

/-- Join pieces that lie alternately outside and inside a paragraph region, with the regions
laid out.  `inside` tells where the first piece lies. -/
def joinRegions (inside : Bool) : List Content → Content
  | [] => []
  | piece :: pieces =>
    (if inside then layoutParagraph piece else piece) ++ joinRegions (!inside) pieces

/-- Lay out the paragraph regions: the boundaries open and close them in turn, and a region that
is never closed runs to the end. -/
def layoutParagraphs (c : Content) : Content :=
  joinRegions false (c.splitOn .boundary)

/-- Turn hard breaks into newlines. -/
def resolveHardBreaks (c : Content) : Content :=
  c.map fun atom => if atom = .hardBreak then .char '\n' else atom

end Content

namespace Layout

/-- Drop the spaces and tabs at the end of a text that is held in reverse. -/
def dropEndSpaces (written : Text) : Text :=
  written.dropWhile fun c => c == ' ' || c == '\t'

/-- The text before a link line, in reverse: unless it is empty or ends a line, its last line is
ended, without spaces and tabs at its end. -/
def endLine (written : Text) : Text :=
  match written with
  | [] => []
  | '\n' :: _ => written
  | _ => '\n' :: dropEndSpaces written

/-- Put every link line on a line of its own.  `written` is the output so far in reverse, and
`afterLink` tells whether it ends with a link line. -/
def isolateLinksAfter (written : Text) (afterLink : Bool) : Content → Text
  | [] => written.reverse
  | .char c :: rest =>
    if afterLink && c != '\n' then isolateLinksAfter (c :: '\n' :: written) false rest
    else isolateLinksAfter (c :: written) false rest
  | .link line :: rest =>
    isolateLinksAfter (line.print.reverse ++ endLine written) true rest
  | _ :: rest => isolateLinksAfter written afterLink rest

/-- The content as text, with every link line on a line of its own. -/
def isolateLinks (c : Content) : Text :=
  isolateLinksAfter [] false c

/-- What opens and closes a fence of preformatted lines. -/
def fence : Text :=
  ['`', '`', '`']

/-- Whether the line opens or closes a fence. -/
def isFence (line : Text) : Bool :=
  fence.isPrefixOf line

/-- Whether the line begins like a link line. -/
def startsLink (line : Text) : Bool :=
  ['=', '>'].isPrefixOf line

/-- Strip the lines that follow a link line.  `inFence` is the fence state before the first
line, and `strip` tells whether that line follows a link line. -/
def stripLinesAfterLinks (inFence strip : Bool) : List Text → List Text
  | [] => []
  | line :: rest =>
    let line := if strip then line.trimStart else line
    if isFence line then line :: stripLinesAfterLinks (!inFence) false rest
    else line :: stripLinesAfterLinks inFence (!inFence && startsLink line) rest

/-- Remove the leading blank characters of every line that follows a link line outside a fence. -/
def stripAfterLinks (s : Text) : Text :=
  Text.joinWith ['\n'] (stripLinesAfterLinks false false (Text.splitOn '\n' s))

/-- Remove trailing blank characters and leading line terminators. -/
def trimDocument (s : Text) : Text :=
  s.trimEnd.dropWhile fun c => c == '\r' || c == '\n'

/-- Let at most two newlines stand in a row.  `seen` counts those just written. -/
def limitNewlines (seen : Nat) : Text → Text
  | [] => []
  | c :: rest =>
    if c = '\n' then
      if seen < 2 then c :: limitNewlines (seen + 1) rest else limitNewlines seen rest
    else c :: limitNewlines 0 rest

end Layout

open Layout in
/-- The document: the content laid out, with the `trailing` content put behind before the link
lines are isolated. -/
def layout (content trailing : Content) : Text :=
  let body := content.layoutParagraphs.resolveHardBreaks
  limitNewlines 0 (trimDocument (stripAfterLinks (isolateLinks (body ++ trailing))))

end Gemtext
