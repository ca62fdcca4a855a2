import Gemtext.Text.Lowercase

/-!
# Link modes

Where the links of a document go.  A mode is written as a name; `LinkMode.parse` reads the name in
any case, and `LinkMode.parseLenient` takes every other text for the default mode.
-/

namespace Gemtext

/-- How links are placed in the document. -/
inductive LinkMode where
  /-- A link is reduced to its text. -/
  | off
  /-- A link becomes a link line where it stands. -/
  | newline
  /-- A link is numbered, and its line follows the paragraph. -/
  | paragraph
  /-- A link is numbered, and its line follows the document. -/
  | atEnd
  /-- The text of a link stays and is repeated on a line after the paragraph. -/
  | copy
  deriving DecidableEq, Repr

namespace LinkMode

/-- The name of the mode. -/
def name : LinkMode → Text
  | off => "off".toList
  | newline => "newline".toList
  | paragraph => "paragraph".toList
  | atEnd => "at-end".toList
  | copy => "copy".toList

/-- Whether links are collected as footnotes. -/
def usesFootnotes : LinkMode → Bool
  | paragraph => true
  | atEnd => true
  | copy => true
  | _ => false

/-- Whether the footnotes of a paragraph follow it. -/
def isParagraphScoped : LinkMode → Bool
  | paragraph => true
  | copy => true
  | _ => false

/-- A name that no link mode has, in small letters. -/
structure UnknownName where
  name : Text
  deriving DecidableEq, Repr

/-- The unknown name in words. -/
def UnknownName.message (e : UnknownName) : Text :=
  "unknown link mode '".toList ++ e.name ++ ['\'']

/-- The mode with the given name, in any case. -/
def parse (s : Text) : Except UnknownName LinkMode :=
  let name := s.lower
  if name == "off".toList then .ok off
  else if name == "newline".toList then .ok newline
  else if name == "paragraph".toList then .ok paragraph
  else if name == "at-end".toList || name == "at_end".toList || name == "atend".toList then
    .ok atEnd
  else if name == "copy".toList then .ok copy
  else .error ⟨name⟩

/-- The mode with the given name, and the default mode for any other text. -/
def parseLenient (s : Text) : LinkMode :=
  match parse s with
  | .ok mode => mode
  | .error _ => newline

end LinkMode

end Gemtext
