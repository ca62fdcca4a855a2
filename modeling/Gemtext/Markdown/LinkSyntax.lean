import Gemtext.Markdown.Entity

/-!
# Destinations, titles and labels of links

Scanners for the parts of a link.  They answer with the part that matters for the link, if there
is one, and with what follows.
-/

namespace Gemtext

namespace Markdown

/-- The destination between angle brackets, of which the opening one has been read.  A backslash
guards the next character, and a newline or another opening bracket is not allowed. -/
def bracketDestination? (read : Text) : Text → Option (Text × Text)
  | [] => none
  | '>' :: rest => if rest.isEmpty then none else some (read.reverse, rest)
  | '\n' :: _ => none
  | '<' :: _ => none
  | '\\' :: c :: rest => bracketDestination? (c :: '\\' :: read) rest
  | c :: rest => bracketDestination? (c :: read) rest

/-- The destination without brackets: up to white space or a control character, or to a closing
parenthesis that was not opened in it; `depth` parentheses are open. -/
def bareDestination? (read : Text) (depth : Nat) : Text → Option (Text × Text)
  | [] => none
  | '\\' :: d :: rest =>
    if isAsciiPunctuation d then bareDestination? (d :: '\\' :: read) depth rest
    else bareDestination? ('\\' :: read) depth (d :: rest)
  | c :: rest =>
    if c = '(' then
      if depth < 32 then bareDestination? (c :: read) (depth + 1) rest else none
    else if c = ')' then
      match depth with
      | 0 => some (read.reverse, c :: rest)
      | depth + 1 => bareDestination? (c :: read) depth rest
    else if isSpaceChar c || isControl c then
      if read.isEmpty || depth != 0 then none else some (read.reverse, c :: rest)
    else bareDestination? (c :: read) depth rest

/-- A link destination, as it is written. -/
def destination? (s : Text) : Option (Text × Text) :=
  match s with
  | '<' :: rest => bracketDestination? [] rest
  | _ => bareDestination? [] 0 s

/-- What follows a title, of which the opening character has been read.  A closing character after
a backslash ends the title only if no other one does; `last?` is what follows such a one. -/
def titleEnd? (opening closing : Char) (escaped : Bool) (last? : Option Text) :
    Text → Option Text
  | [] => last?
  | c :: rest =>
    if c = closing then
      if escaped then titleEnd? opening closing false (some rest) rest else some rest
    else if c = opening && !escaped then last?
    else titleEnd? opening closing (c == '\\') last? rest

/-- What follows a link title. -/
def title? (s : Text) : Option Text :=
  match s with
  | '"' :: rest => titleEnd? '"' '"' false none rest
  | '\'' :: rest => titleEnd? '\'' '\'' false none rest
  | '(' :: rest => titleEnd? '(' ')' false none rest
  | _ => none

/-- The number of bytes that the character takes in UTF-8. -/
def byteLength (c : Char) : Nat :=
  c.utf8Size

/-- The label in square brackets, of which the opening one has been read.  It holds no brackets
that are not escaped, and takes at most `left` bytes. -/
def labelEnd? (read : Text) (left : Nat) : Text → Option (Text × Text)
  | [] => none
  | ']' :: rest => some (trimWhite read.reverse, rest)
  | '[' :: _ => none
  | '\\' :: c :: rest =>
    if isAsciiPunctuation c then
      if left < 2 then none else labelEnd? (c :: '\\' :: read) (left - 2) rest
    else if left < 1 then none
    else labelEnd? ('\\' :: read) (left - 1) (c :: rest)
  | c :: rest =>
    if left < byteLength c then none else labelEnd? (c :: read) (left - byteLength c) rest

/-- A link label in square brackets: its text, without white space at its ends. -/
def label? (s : Text) : Option (Text × Text) :=
  match s with
  | '[' :: rest => labelEnd? [] 1000 rest
  | _ => none

end Markdown

end Gemtext
