import Gemtext.Config
import Gemtext.Settings.Key

/-!
# Settings

The settings of the program: those that rendering depends on, and where the output goes.
`RenderSettings.toConfig` gives the options that they ask for.
-/

namespace Gemtext

/-- The settings that rendering depends on, as they are written. -/
structure RenderSettings where
  codeTag : Text
  imgTag : Text
  /-- A number of spaces, or the word for a tab. -/
  indent : Text
  asciiTable : Bool
  links : Text
  plain : Bool
  stripHtml : Bool
  baseUrl : Text
  mdLinks : Bool
  tableTag : Text
  checklist : Bool
  frontmatter : Bool
  maxTableWidth : Nat
  deriving DecidableEq, Repr

/-- Where the output goes. -/
structure OutputSettings where
  /-- Write files instead of printing. -/
  write : Bool
  /-- The directory for written files. -/
  dir : Text
  deriving DecidableEq, Repr

/-- All settings. -/
structure Settings where
  render : RenderSettings
  output : OutputSettings
  deriving DecidableEq, Repr

namespace Settings

/-- The value of a setting. -/
def value (s : Settings) : SettingKey → Scalar
  | .codeTag => .text s.render.codeTag
  | .imgTag => .text s.render.imgTag
  | .indent => .text s.render.indent
  | .asciiTable => .boolean s.render.asciiTable
  | .links => .text s.render.links
  | .plain => .boolean s.render.plain
  | .stripHtml => .boolean s.render.stripHtml
  | .baseUrl => .text s.render.baseUrl
  | .mdLinks => .boolean s.render.mdLinks
  | .tableTag => .text s.render.tableTag
  | .checklist => .boolean s.render.checklist
  | .frontmatter => .boolean s.render.frontmatter
  | .maxTableWidth => .integer s.render.maxTableWidth
  | .write => .boolean s.output.write
  | .dir => .text s.output.dir

end Settings

/-- The options that the settings ask for.  An unknown link mode counts as the default one. -/
def RenderSettings.toConfig (s : RenderSettings) : Except ConvertError Config :=
  (indentOfSpec s.indent).map fun indent =>
    let c : Config := {
      codeTag := s.codeTag
      imgTag := s.imgTag
      indent
      asciiTable := s.asciiTable
      links := .parseLenient s.links
      plain := s.plain
      stripHtml := s.stripHtml
      baseUrl := []
      mdLinks := s.mdLinks
      retarget := none
      tableTag := s.tableTag
      checklist := s.checklist
      frontmatter := s.frontmatter
      maxTableWidth := s.maxTableWidth }
    c.withBaseUrl s.baseUrl

end Gemtext
