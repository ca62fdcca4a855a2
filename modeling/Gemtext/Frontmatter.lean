import Gemtext.Text.Basic

/-!
# Front matter

A block of metadata at the start of a document stands between two lines of `---` or two lines of
`+++`.  `stripFrontmatter` removes it; a block that is not closed is no front matter.
-/

namespace Gemtext

/-- The lines that open and close front matter. -/
def frontmatterDelimiters : List Text :=
  ["---".toList, "+++".toList]

/-- What follows the first line that is the delimiter, blank characters at its end aside. -/
def linesAfter? (delimiter : Text) : List Text → Option (List Text)
  | [] => none
  | line :: rest => if line.trimEnd = delimiter then some rest else linesAfter? delimiter rest

/-- The body of a document that begins with front matter. -/
def frontmatterBody? (source : Text) : Option Text :=
  match source.trim.lines with
  | [] => none
  | first :: rest =>
    let delimiter := first.trimEnd
    if frontmatterDelimiters.contains delimiter then
      (linesAfter? delimiter rest).map (Text.joinWith ['\n'])
    else none

/-- The document without its front matter. -/
def stripFrontmatter (source : Text) : Text :=
  (frontmatterBody? source).getD source

end Gemtext
