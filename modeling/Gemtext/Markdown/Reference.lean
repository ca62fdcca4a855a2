import Gemtext.Markdown.LinkSyntax
import Gemtext.Text.CaseFold

/-!
# Link reference definitions

A definition gives a label a target.  Labels are compared in normal form: without regard to case
and to the kind and amount of white space.  Of several definitions of a label the first holds.

`definition?` reads a definition at the start of a paragraph; `takeDefinitions` reads as many as
there are.
-/

namespace Gemtext

namespace Markdown

/-- The text with every run of blank characters as one space. -/
def squeezeBlank (afterBlank : Bool) : Text → Text
  | [] => []
  | c :: rest =>
    if isBlank c then
      if afterBlank then squeezeBlank true rest else ' ' :: squeezeBlank true rest
    else c :: squeezeBlank false rest

/-- The normal form of a label. -/
def normalizeLabel (label : Text) : Text :=
  Text.foldCase (squeezeBlank false (trimWhite label))

/-- A defined label in normal form, and its target. -/
structure Reference where
  label : Text
  target : Text
  deriving DecidableEq, Repr

/-- The target that a label in normal form is defined to have. -/
def findTarget? (references : List Reference) (label : Text) : Option Text :=
  (references.find? (·.label == label)).map Reference.target

/-- What follows the end of a line on which only spaces and tabs are left. -/
def blankLineEnd? (s : Text) : Option Text :=
  lineEnd? (dropSpaces s)

/-- A definition at the start of a text, and what follows its last line. -/
def definition? (s : Text) : Option (Reference × Text) := do
  let (label, afterLabel) ← label? s
  let afterColon ← if label.isEmpty then none else Text.dropStart? [':'] afterLabel
  let (destination, behind) ← destination? (dropSpacesAndNewline afterColon)
  let beforeTitle := dropSpacesAndNewline behind
  let withTitle? := do
    let afterTitle ← if beforeTitle.length < behind.length then title? beforeTitle else none
    blankLineEnd? afterTitle
  let rest ← withTitle?.or (blankLineEnd? behind)
  pure (⟨normalizeLabel label, cleanTarget destination⟩, rest)

/-- The definitions at the start of a text, at most `most`, and what follows them. -/
def takeDefinitions (most : Nat) (s : Text) : List Reference × Text :=
  match most with
  | 0 => ([], s)
  | most + 1 =>
    match definition? s with
    | none => ([], s)
    | some (reference, rest) =>
      let (references, rest) := takeDefinitions most rest
      (reference :: references, rest)

end Markdown

end Gemtext
