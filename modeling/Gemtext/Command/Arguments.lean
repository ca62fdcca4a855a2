import Gemtext.Settings.Setting

/-!
# Arguments of the command

Arguments are switches and names of files.  What is read off the command line is kept as
`Arguments`, and `Arguments.settings` are the settings that the switches set.
-/

namespace Gemtext

namespace Command

/-- How the command ends. -/
structure Outcome where
  code : Nat
  output : Text
  errors : Text
  deriving DecidableEq, Repr

/-- A switch without a value. -/
inductive Flag where
  | write
  | asciiTable
  | frontmatter
  /-- An old name of the switch that removes front matter. -/
  | jekyll
  | plain
  | stripHtml
  | mdLinks
  | noChecklist
  | verbose
  deriving DecidableEq, Repr

/-- A switch whose value is a text. -/
inductive TextSwitch where
  | dir
  | codeTag
  | imgTag
  | tableTag
  | indent
  | links
  | baseUrl
  | config
  deriving DecidableEq, Repr

/-- What arguments ask for. -/
structure Arguments where
  flags : List Flag
  texts : List (TextSwitch × Text)
  maxTableWidth : Option UInt32
  files : List Text
  deriving DecidableEq, Repr

/-- What reads arguments.  If they are wrong, or ask for the version or for help, it tells how the
command ends. -/
abbrev Reader := List Text → Except Outcome Arguments

namespace Arguments

/-- Whether a switch is given. -/
def flag (a : Arguments) (f : Flag) : Bool :=
  a.flags.contains f

/-- The value of a switch. -/
def text? (a : Arguments) (name : TextSwitch) : Option Text :=
  a.texts.lookup name

end Arguments

/-- The switches with a text that set something, and the keys that they set. -/
def textKeys : List (TextSwitch × String) := [
  (.codeTag, "render.code_tag"),
  (.imgTag, "render.img_tag"),
  (.tableTag, "render.table_tag"),
  (.indent, "render.indent"),
  (.links, "render.links"),
  (.baseUrl, "render.base_url"),
  (.dir, "output.dir")]

/-- The switches without a value that set something, the keys that they set, and to what. -/
def flagKeys : List (Flag × String × Bool) := [
  (.write, "output.write", true),
  (.asciiTable, "render.ascii_table", true),
  (.frontmatter, "render.frontmatter", true),
  (.jekyll, "render.frontmatter", true),
  (.plain, "render.plain", true),
  (.stripHtml, "render.strip_html", true),
  (.mdLinks, "render.md_links", true),
  (.noChecklist, "render.checklist", false)]

/-- The settings that the arguments set, in order. -/
def Arguments.settings (a : Arguments) : List (Text × Scalar) :=
  (textKeys.filterMap fun (name, key) =>
      (a.text? name).map fun value => (key.toList, .text value)) ++
    (flagKeys.filterMap fun (flag, key, value) =>
      if a.flag flag then some (key.toList, .boolean value) else none) ++
    (a.maxTableWidth.map fun width =>
      ("render.max_table_width".toList, .integer width.toNat)).toList

end Command

end Gemtext
