import Gemtext.Library
import Gemtext.Markdown.Document
import Gemtext.Text.CharWidth
import Gemtext.Url.Absolute

/-!
# The library that the command is built on
-/

namespace Gemtext

/-- Characters as wide as Unicode makes them, the URLs of browsers, and GitHub's Markdown. -/
def Library.standard : Library where
  measure := charWidth
  isAbsoluteUrl := Gemtext.isAbsoluteUrl
  parse := Markdown.parse

/-- A conversion with the options that hold unless others are chosen. -/
def Conversion.standard : Conversion :=
  ⟨.default, .standard⟩

end Gemtext
