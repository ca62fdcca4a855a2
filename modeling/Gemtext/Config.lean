import Gemtext.Error
import Gemtext.LinkMode
import Gemtext.Number.Decimal
import Gemtext.Text.Quoted

/-!
# Options of a conversion

`Config` holds the options that the rendering depends on.  `indentOfSpec` reads the indent that is
repeated per level of a list, and `Config.describe` shows all options on one line.
-/

namespace Gemtext

/-- The options of one conversion. -/
structure Config where
  /-- The tag of a code block that has none of its own. -/
  codeTag : Text
  /-- What is put after the label of an image. -/
  imgTag : Text
  /-- The indent of one level of a list. -/
  indent : Text
  /-- Draw tables with ASCII characters. -/
  asciiTable : Bool
  /-- Where links go. -/
  links : LinkMode
  /-- Leave out the marks of emphasis and code, and inline HTML. -/
  plain : Bool
  /-- Leave out all HTML. -/
  stripHtml : Bool
  /-- What is put before targets that begin at the root; it has lost one slash at its end. -/
  baseUrl : Text
  /-- Make relative links to Markdown files point to gemtext files. -/
  mdLinks : Bool
  /-- The function that link targets pass through, if there is one. -/
  retarget : Option (Text → Text)
  /-- The tag of a table. -/
  tableTag : Text
  /-- Show the boxes of a task list as glyphs. -/
  checklist : Bool
  /-- Remove front matter. -/
  frontmatter : Bool
  /-- The limit on the width of a table; zero sets none. -/
  maxTableWidth : Nat

namespace Config

/-- The options that hold unless others are chosen. -/
def default : Config where
  codeTag := []
  imgTag := "[IMG]".toList
  indent := [' ', ' ']
  asciiTable := false
  links := .newline
  plain := false
  stripHtml := false
  baseUrl := []
  mdLinks := false
  retarget := none
  tableTag := "table".toList
  checklist := true
  frontmatter := false
  maxTableWidth := 80

/-- Set the base of targets that begin at the root; one slash at its end is dropped. -/
def withBaseUrl (c : Config) (baseUrl : Text) : Config :=
  { c with baseUrl := (Text.dropEnd? ['/'] baseUrl).getD baseUrl }

/-- A truth value in words. -/
def boolText (b : Bool) : Text :=
  if b then "true".toList else "false".toList

/-- The constructor name of a link mode. -/
def modeText : LinkMode → Text
  | .off => "Off".toList
  | .newline => "Newline".toList
  | .paragraph => "Paragraph".toList
  | .atEnd => "AtEnd".toList
  | .copy => "Copy".toList

/-- All options on one line; of a rewriting it is only told that there is one. -/
def describe (c : Config) : Text :=
  let retarget :=
    match c.retarget with
    | none => "None".toList
    | some _ => "Some(\"<fn>\")".toList
  let fields : List (String × Text) :=
    [("code_tag", c.codeTag.quoted), ("img_tag", c.imgTag.quoted), ("indent", c.indent.quoted),
      ("ascii_table", boolText c.asciiTable), ("links", modeText c.links),
      ("plain", boolText c.plain), ("strip_html", boolText c.stripHtml),
      ("base_url", c.baseUrl.quoted), ("md_links", boolText c.mdLinks),
      ("link_rewrite", retarget), ("table_tag", c.tableTag.quoted),
      ("checklist", boolText c.checklist), ("frontmatter", boolText c.frontmatter),
      ("max_table_width", Text.ofNat c.maxTableWidth)]
  "RenderConfig \x7b ".toList ++
    Text.joinWith [',', ' '] (fields.map fun (name, value) => name.toList ++ [':', ' '] ++ value) ++
    " \x7d".toList

end Config

/-- The largest count that a setting can hold. -/
def maxCount : Nat :=
  twoTo 64 - 1

/-- The count that a text of digits denotes; a plus sign may stand before them. -/
def countOfText? (s : Text) : Option Nat :=
  let digits := (Text.dropStart? ['+'] s).getD s
  if digits.isEmpty || !digits.all isDecimalDigit then none
  else if digitsValue digits ≤ maxCount then some (digitsValue digits)
  else none

/-- The indent that a specification asks for: a number of spaces, or `tab` in any case. -/
def indentOfSpec (spec : Text) : Except ConvertError Text :=
  let spec := spec.trim
  if Text.asciiLower spec == "tab".toList then .ok ['\t']
  else
    match countOfText? spec with
    | some n => .ok (Text.spaces n)
    | none => .error (.invalidIndent spec)

end Gemtext
