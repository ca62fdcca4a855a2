import Gemtext.Library

/-!
# Link targets

The target of a link passes three stages: relative links to Markdown files are pointed to gemtext
files, the function of the options is applied, and targets that begin at the root are put behind
the base url.
-/

namespace Gemtext

namespace Library

/-- Whether the target is relative: neither absolute nor relative to a scheme only. -/
def isRelativeTarget (l : Library) (url : Text) : Bool :=
  !("//".toList.isPrefixOf url) && !l.isAbsoluteUrl url

/-- The gemtext file that belongs to a relative link to a Markdown file.  A fragment is dropped,
since gemtext has no anchors. -/
def gemtextTarget? (l : Library) (url : Text) : Option Text :=
  if l.isRelativeTarget url then
    (Text.dropEnd? ".md".toList (url.takeWhile (· != '#'))).map (· ++ ".gmi".toList)
  else none

end Library

/-- The target behind the base url, if it begins at the root. -/
def Config.applyBaseUrl (c : Config) (url : Text) : Text :=
  match url with
  | '/' :: '/' :: _ => url
  | '/' :: _ => c.baseUrl ++ url
  | _ => url

/-- The target as it is written in the document. -/
def Conversion.resolveTarget (c : Conversion) (url : Text) : Text :=
  let trimmed := url.trim
  let pointed := if c.mdLinks then (c.gemtextTarget? trimmed).getD trimmed else trimmed
  c.applyBaseUrl
    (match c.retarget with
    | none => pointed
    | some retarget => retarget pointed)

end Gemtext
