import Gemtext.Proofs.Content.ClosedSpans
import Gemtext.Proofs.Render.FencedContent
import Gemtext.Proofs.Render.PlainStrings

/-!
# Code spans of what is rendered

With plain strings, backticks come from code spans and from fences only.  So what is rendered of
nodes that are not set between fences `ClosesSpans` (`keeps_closesSpans`), whatever blocks and lines
are put together, and an inline content is a `SpannedLine`.
-/

namespace Gemtext

open Text

namespace Render

open Content Markdown Node

variable {c : Conversion} {content : Content} {s : RenderState}

/-! ## Inline nodes -/

theorem closesSpans_link {url inner : Text} (hurl : url.isPlain)
    (htarget : (c.resolveTarget url.trim).isPlain) (hinner : '`' ∉ inner)
    (hcontent : ClosesSpans content) : ClosesSpans (link c url content inner s).1 := by
  have hlinks := ClosesSpans.linkLines content
  unfold link
  dsimp only
  -- without links in the document the target or the content is shown
  split
  · dsimp only
    split
    · exact .of_isPlain (isPlain_trim hurl)
    · exact hcontent
  · split
    · -- the label or the target is shown, perhaps with a number
      have hdisplay : ClosesSpans (ofText ((linkLabel? url.trim content inner).getD
          (c.resolveTarget url.trim))) := by
        -- what is shown is collapsed onto one line
        cases hlabel : linkLabel? url.trim content inner with
        | none => exact .of_isPlain htarget
        | some label =>
          rcases linkLabel?_eq_some hlabel with rfl | rfl
          · exact .ofText hcontent.spanned.collapseBlank (newline_not_mem_collapseBlank _)
          · exact .ofText (Spanned.of_not_mem hinner).collapseBlank
              (newline_not_mem_collapseBlank _)
      refine ClosesSpans.append ?_ hlinks
      split
      · exact hdisplay
      · rw [List.append_assoc, ofText, List.map_append]
        refine hdisplay.append (.of_not_mem ?_)
        -- a number has no backticks
        have hnumber (n : Nat) : '`' ∉ Text.ofNat n := fun hmem =>
          absurd (isDigit_of_mem_ofNat hmem) (by decide)
        simp [hnumber]
    · exact (ClosesSpans.of_isLink (c := [.link _]) (by simp [Atom.isLink])).append hlinks

/-- An image shows its target or its alternative text, or a link line. -/
theorem closesSpans_image {src alt : Text} (hsrc : src.isPlain) (halt : alt.isPlain) :
    ClosesSpans (image c src alt) := by
  unfold image
  dsimp only
  split
  · refine .of_isPlain ?_
    split
    · exact isPlain_trim hsrc
    · exact isPlain_trim halt
  · exact .of_isLink (by simp [Atom.isLink])

/-- Code on one line, without backticks, stands between its two. -/
theorem closesSpans_codeSpan {code : Text} (h : code.isPlain) (hne : code ≠ []) :
    ClosesSpans (codeSpan c code) := by
  obtain ⟨htick, hnewline⟩ := isPlain_iff.1 h
  unfold codeSpan
  split
  · exact .of_isPlain h
  · exact .ofText (.code hne htick) (by simp [hnewline])

/-- Raw markup is shown as code. -/
theorem closesSpans_htmlInline {html : Text} (h : html.isPlain) :
    ClosesSpans (Render.htmlInline c html) := by
  unfold Render.htmlInline
  split
  · exact .nil
  · exact .of_isPlain h

/-- Markers hold no backticks. -/
theorem closesSpans_marked {marker : Text} (hmarker : marker.isPlain)
    (hcontent : ClosesSpans content) : ClosesSpans (marked c marker content) := by
  have hmark := ClosesSpans.of_isPlain hmarker
  unfold marked
  split
  · exact hcontent
  · exact (hmark.append hcontent).append hmark

/-! ## Paragraphs and headings -/

/-- Boundaries stand between two spans. -/
theorem closesSpans_paragraphRegion (h : ClosesSpans content) :
    ClosesSpans (paragraphRegion content) := by
  have hboundary : ClosesSpans [.boundary] := rfl
  exact (hboundary.append h).append hboundary

/-- A paragraph closes its spans if its content does, also with footnotes behind it. -/
theorem closesSpans_paragraph (hcontent : ClosesSpans content) :
    ClosesSpans (paragraph c content s).1 :=
  paragraph_of_regions .append (fun hlinks => closesSpans_paragraphRegion (.of_isLink hlinks))
    (closesSpans_paragraphRegion hcontent)

/-- A heading is marked with number signs, and ends with newlines. -/
theorem closesSpans_headingLine (level : Nat) (hcontent : ClosesSpans content) :
    ClosesSpans (headingLine content level) := by
  have hmark : ClosesSpans (ofText (List.replicate level '#' ++ [' '])) :=
    .of_not_mem (by simp [ofText])
  exact (hmark.append hcontent.trim).append (.of_not_mem (by decide))

/-- So does a heading, with the footnotes before it. -/
theorem closesSpans_heading (level : Nat) (hcontent : ClosesSpans content) :
    ClosesSpans (heading c content level s).1 :=
  heading_of_regions .append (fun hlinks => closesSpans_paragraphRegion (.of_isLink hlinks)) level
    (closesSpans_headingLine level hcontent)

/-! ## Quotations and lists -/

/-- A line of a quotation is marked in front. -/
theorem closesSpans_quoteLine (h : ClosesSpans content) : ClosesSpans (quoteLine content) := by
  have hmark : ClosesSpans [.char '>', .char ' '] := rfl
  unfold quoteLine
  split
  · rfl
  · exact h
  · exact hmark.append h

/-- The lines of a quotation are those of its content, trimmed and marked. -/
theorem closesSpans_blockQuote (h : ClosesSpans content) : ClosesSpans (blockQuote content) := by
  refine closesSpans_paragraphRegion (.intersperse (by decide) fun line hline => ?_)
  obtain ⟨bare, hbare, rfl⟩ := List.mem_map.1 hline
  obtain ⟨source, hsource, rfl⟩ := List.mem_map.1 (mem_of_mem_squeezeEmpty hbare)
  exact closesSpans_quoteLine (h.flattenBlocks.trim.of_mem_lines hsource).trim

/-- The lines of an item are those of its content, trimmed. -/
theorem closesSpans_listItem (h : ClosesSpans content) : ClosesSpans (listItem content) := by
  refine ClosesSpans.append (.joinWith (by decide) fun line hline => ?_) (.of_not_mem (by decide))
  obtain ⟨source, hsource, rfl⟩ := List.mem_map.1 (List.mem_filter.1 hline).1
  exact (h.flattenBlocks.of_mem_lines hsource).trim

/-- The box of an item holds no backticks. -/
theorem closesSpans_taskListItem (checked : Bool) (h : ClosesSpans content) :
    ClosesSpans (taskListItem c content checked) := by
  refine closesSpans_listItem (ClosesSpans.append (.of_isPlain ?_) h.flattenBlocks.trim)
  unfold checkbox
  split <;> rfl

/-- The marker of an item is a star or a number. -/
theorem isTame_listMarker (ordered : Bool) (number : Nat) :
    (listMarker ordered number).isTame := by
  cases ordered with
  | false => rfl
  | true => exact Text.isTame_append (Text.isTame_ofNat number) rfl

/-- The indent of a list consists of spaces and tabs. -/
theorem isTame_indent (hblank : ∀ x ∈ c.indent, x = ' ' ∨ x = '\t') (level : Nat) :
    (times level c.indent).isTame := List.all_eq_true.2 fun x hx => by
  rcases hblank x (mem_of_mem_times hx) with rfl | rfl <;> rfl

/-- The lines of a list are those of its items, behind their markers, and of the lists in them. -/
theorem closesSpans_list (hblank : ∀ x ∈ c.indent, x = ' ' ∨ x = '\t') (ordered : Bool)
    (level start : Nat) {entries : List ListEntry}
    (h : ∀ e ∈ entries, ClosesSpans e.content ∧ ClosesSpans e.nested) :
    ClosesSpans (list c entries ordered level start) := by
  refine ClosesSpans.append (.joinWith (by decide) fun line hline => ?_) (.of_not_mem (by decide))
  obtain ⟨e, he, hnested | ⟨k, rfl⟩⟩ := mem_listLines hline
  · exact (h e he).2.of_mem_lines hnested
  · -- the line of an item begins with its indent and its marker
    have hmarker := isTame_append (isTame_indent hblank (level - 1)) (isTame_listMarker ordered k)
    exact (ClosesSpans.of_isTame hmarker).append (h e he).1.trim

/-! ## All calls -/

/-- What has no children closes its spans, unless it stands between fences. -/
theorem closesSpans_leaf {kind : NodeKind} {children : List Node}
    {call : StateM RenderState Content} (hplain : kind.isPlain) (hunfenced : !kind.isFenced)
    (hchildren : everywhereAll (fun node => node.kind.isPlain) children)
    (h : leafCall? (gemtextRenderer c) kind children = some call) : ClosesSpans (call s).1 := by
  cases kind <;> cases h
  case frontMatter => exact .nil
  case thematicBreak =>
    show ClosesSpans thematicBreak
    exact .of_not_mem (by simp [thematicBreak, ofText])
  case text s => exact .of_isPlain hplain
  case softBreak | lineBreak => exact rfl
  case code code =>
    obtain ⟨hcode, hne⟩ := Bool.and_eq_true_iff.1 hplain
    exact closesSpans_codeSpan hcode (by simpa using hne)
  case htmlInline html => exact closesSpans_htmlInline hplain
  case image url => exact closesSpans_image hplain (isPlain_innerTexts hchildren)
  -- all other leaves are rendered between fences
  all_goals exact absurd hunfenced Bool.false_ne_true

theorem closesSpans_close (hc : c.Plain) (tight : Bool) {kind : NodeKind} {children : List Node}
    (hplain : kind.isPlain) (hchildren : everywhereAll (fun node => node.kind.isPlain) children)
    (hcontent : ClosesSpans content) :
    ClosesSpans (closeCall (gemtextRenderer c) tight kind children content s).1 := by
  cases kind with
  | paragraph =>
    -- in a tight list a newline ends the line
    cases tight with
    | true => exact hcontent.append rfl
    | false => exact closesSpans_paragraph hcontent
  | heading depth => exact closesSpans_heading depth hcontent
  | blockQuote => exact closesSpans_blockQuote hcontent
  | emphasis => exact closesSpans_marked rfl hcontent
  | strong => exact closesSpans_marked rfl hcontent
  | link url =>
    exact closesSpans_link hplain (Conversion.isPlain_resolveTarget hc (isPlain_trim hplain))
      (isPlain_iff.1 (isPlain_innerTexts hchildren)).1 hcontent
  | _ => exact hcontent

/-- Every call closes the code spans, for nodes that are not rendered between fences. -/
theorem keeps_closesSpans (hc : c.Plain) :
    (gemtextRenderer c).Keeps (fun node => node.kind.isPlain && !node.kind.isFenced)
      (fun _ => True) ClosesSpans where
  nil := .nil
  append := .append
  leaf hp hcall _ := by
    obtain ⟨hkind, hchildren⟩ := everywhere_mk.1 hp
    obtain ⟨hplain, hunfenced⟩ := Bool.and_eq_true_iff.1 hkind
    exact ⟨closesSpans_leaf hplain hunfenced (everywhereAll_and.1 hchildren).1 hcall, trivial⟩
  opening _ _ _ := trivial
  closing tight kind children content s hp hcontent _ := by
    obtain ⟨hkind, hchildren⟩ := everywhere_mk.1 hp
    exact ⟨closesSpans_close hc tight (Bool.and_eq_true_iff.1 hkind).1
      (everywhereAll_and.1 hchildren).1 hcontent, trivial⟩
  item kind level content s hcontent _ := by
    refine ⟨?_, trivial⟩
    cases kind with
    | taskItem symbol => exact closesSpans_taskListItem symbol.isSome hcontent
    | _ => exact closesSpans_listItem hcontent
  list ordered level start _ _ h _ := ⟨closesSpans_list hc.indent ordered level start h, trivial⟩
  cell _ _ _ _ _ _ := trivial
  row kind cells s _ := by
    unfold rowCall
    split <;> exact ⟨.nil, trivial⟩
  table hp _ _ := by
    -- a table is rendered between fences
    have hunfenced := (Bool.and_eq_true_iff.1 (everywhere_mk.1 hp).1).2
    exact absurd hunfenced Bool.false_ne_true

/-! ## Inline contents -/

theorem boundary_not_mem_ofText (s : Text) : .boundary ∉ ofText s := by
  simp [ofText]

theorem boundary_not_mem_linkLines (c : Content) : .boundary ∉ c.linkLines := fun hmem =>
  absurd (List.mem_filter.1 hmem).2 Bool.false_ne_true

/-- A link puts no boundary in. -/
theorem boundary_not_mem_link (url inner : Text) (h : .boundary ∉ content) :
    .boundary ∉ (link c url content inner s).1 := by
  have hlinks := boundary_not_mem_linkLines content
  unfold link
  dsimp only
  split
  · dsimp only
    split
    · exact boundary_not_mem_ofText _
    · exact h
  · split
    · exact List.not_mem_append (boundary_not_mem_ofText _) hlinks
    · exact List.not_mem_cons_of_ne_of_not_mem nofun hlinks

/-- Nor do the markers of emphasis. -/
theorem boundary_not_mem_marked (marker : Text) (h : .boundary ∉ content) :
    .boundary ∉ marked c marker content := by
  have hmark := boundary_not_mem_ofText marker
  unfold marked
  split
  · exact h
  · exact List.not_mem_append (List.not_mem_append hmark h) hmark

/-- No boundary stands in a line. -/
theorem keepsInline_noBoundary (c : Conversion) :
    (gemtextRenderer c).KeepsInline (fun _ => true) fun _ content _ => .boundary ∉ content where
  nil _ := List.not_mem_nil
  append := List.not_mem_append
  leaf {kind children call} s _ hinline hcall := by
    cases kind <;> cases hcall
    case text | code => exact boundary_not_mem_ofText _
    case softBreak | lineBreak =>
      exact List.not_mem_cons_of_ne_of_not_mem nofun List.not_mem_nil
    case htmlInline =>
      show .boundary ∉ Render.htmlInline c _
      unfold Render.htmlInline
      split
      · exact List.not_mem_nil
      · exact boundary_not_mem_ofText _
    case image =>
      show .boundary ∉ image c _ _
      unfold image
      dsimp only
      split
      · exact boundary_not_mem_ofText _
      · exact List.not_mem_cons_of_ne_of_not_mem nofun List.not_mem_nil
    -- all other leaves are blocks
    all_goals cases hinline
  closing tight {kind children s content s₁} _ hinline h := by
    cases kind with
    | emphasis => exact boundary_not_mem_marked _ h
    | strong => exact boundary_not_mem_marked _ h
    | link url => exact boundary_not_mem_link url _ h
    | strikethrough | superscript => exact h
    | _ => first | exact h | cases hinline

/-- Inline nodes are rendered to a content that closes its spans. -/
theorem closesSpans_renderAll (hc : c.Plain) {level : Nat} {nodes : List Node}
    {s s' : RenderState} (hplain : everywhereAll (fun node => node.kind.isPlain) nodes)
    (hinline : nodes.all isInline)
    (h : Yields (renderAll (gemtextRenderer c) level nodes) s content s') :
    ClosesSpans content := by
  have hunfenced : everywhereAll (fun node => !node.kind.isFenced) nodes :=
    everywhereAll_mono (fun _ hnode => by rw [NodeKind.isFenced_of_isInline hnode]; rfl)
      (everywhereAll_eq_all nodes ▸ hinline)
  exact ((keeps_closesSpans hc).of_renderAll (everywhereAll_and.2 ⟨hplain, hunfenced⟩)
    trivial h).1

/-- The backticks of a line belong to its code spans. -/
theorem spannedLine_renderAll (hc : c.Plain) {level : Nat} {nodes : List Node}
    {s s' : RenderState} (hplain : everywhereAll (fun node => node.kind.isPlain) nodes)
    (hinline : nodes.all isInline)
    (h : Yields (renderAll (gemtextRenderer c) level nodes) s content s') :
    SpannedLine content where
  spanned := (closesSpans_renderAll hc hplain hinline h).spanned
  noBoundary := (keepsInline_noBoundary c).of_renderAll (everywhereAll_true nodes)
    (everywhereAll_eq_all nodes ▸ hinline) h

end Render

end Gemtext
