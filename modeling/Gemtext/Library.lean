import Gemtext.Config
import Gemtext.Markdown.Node
import Gemtext.Text.Wrap

/-!
# What a conversion is built on

Measuring characters, recognizing absolute URLs and reading Markdown are not the business of the
conversion.  They come from a `Library`, and a `Conversion` is a library with the options.
-/

namespace Gemtext

/-- What a conversion takes from the libraries that it is built on. -/
structure Library where
  /-- The number of columns that a character takes on a terminal. -/
  measure : Measure
  /-- Whether a text is an absolute URL. -/
  isAbsoluteUrl : Text → Bool
  /-- The tree of a Markdown document. -/
  parse : Text → Markdown.Node

/-- The options of a conversion, and what it takes from libraries. -/
structure Conversion extends Config, Library

end Gemtext
