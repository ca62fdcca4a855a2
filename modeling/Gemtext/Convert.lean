import Gemtext.Frontmatter
import Gemtext.Layout
import Gemtext.Render.Gemtext
import Gemtext.Render.Walk

/-!
# Converting a document

`convert` makes gemtext of Markdown: the document is read into a tree, the tree is rendered, and
the content is laid out, with the footnotes that are left at the end.
-/

namespace Gemtext

/-- A rendered document. -/
structure Rendition where
  body : Content
  /-- The footnotes that are left for the end of the document. -/
  trailing : Content
  /-- How many footnotes are numbered. -/
  footnoteCount : Nat

/-- The text of a rendered document. -/
def Rendition.text (r : Rendition) : Text :=
  layout r.body r.trailing

/-- Render a tree that stands inside `level` lists. -/
def renderTree (c : Conversion) (level : Nat) (tree : Markdown.Node) :
    Except ConvertError Rendition :=
  let (result, state) := (tree.render (gemtextRenderer c) level).run RenderState.initial
  match result with
  | .error cause => .error (.table cause)
  | .ok body => .ok ⟨body, (Render.finish c state).1, state.footnotes.counter⟩

/-- The gemtext of a Markdown document. -/
def convert (c : Conversion) (markdown : Text) : Except ConvertError Text :=
  if markdown.isEmpty then .ok []
  else
    let source := if c.frontmatter then stripFrontmatter markdown else markdown
    (renderTree c 0 (c.parse source)).map Rendition.text

end Gemtext
