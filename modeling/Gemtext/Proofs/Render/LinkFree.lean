import Gemtext.Proofs.Render.Links

/-!
# Trees without link lines

Where a link line comes from depends on the mode: from links if they become link lines where they
stand, from images unless links are off, and from paragraphs and headings if the footnotes follow
them.  A tree without such nodes is `Node.linkless`, and no link line stands in what is rendered of
it (`keeps_linkless`).
-/

namespace Gemtext

namespace Markdown

/-- Whether a link line may stand where nodes of the kind do. -/
def NodeKind.placesLinks (mode : LinkMode) : NodeKind → Bool
  | .link _ => mode = .newline
  | .image _ => mode ≠ .off
  | .paragraph | .heading _ => mode.isParagraphScoped
  | _ => false

/-- Whether neither the node nor a node below it is the place of a link line. -/
def Node.linkless (mode : LinkMode) (node : Node) : Bool :=
  everywhere (fun node => !node.kind.placesLinks mode) node

end Markdown

namespace Render

open Content Markdown Node

variable {c : Conversion} {content : Content} {s : RenderState}

theorem linkLines_ofText (s : Text) : (ofText s).linkLines = [] :=
  filter_ofText (fun _ => rfl) s

/-- Flattening moves no link line. -/
theorem linkLines_flattenBlocks (content : Content) :
    content.flattenBlocks.linkLines = content.linkLines := by
  rw [linkLines, filter_flattenBlocks fun _ => rfl]
  exact List.filter_congr fun atom _ => by cases atom <;> rfl

theorem linkLines_paragraphRegion (content : Content) :
    (paragraphRegion content).linkLines = content.linkLines := by
  simp [paragraphRegion, linkLines, Atom.isLink]

/-- A link that does not become a link line shows none but those of the images in it. -/
theorem linkLines_link (hmode : c.links ≠ .newline) (url inner : Text)
    (h : content.linkLines = []) : (link c url content inner s).1.linkLines = [] := by
  unfold link
  dsimp only
  split
  · dsimp only
    split
    · exact linkLines_ofText _
    · exact h
  · rename_i hlive
    have huses : c.links.usesFootnotes := by
      cases hlinks : c.links <;> simp_all [LinkMode.usesFootnotes]
    rw [if_pos huses, h, List.append_nil]
    exact linkLines_ofText _

/-- What has no children places no link line, unless it is an image. -/
theorem linkLines_leaf {kind : NodeKind} {children : List Node}
    {call : StateM RenderState Content} (hkind : !kind.placesLinks c.links)
    (h : leafCall? (gemtextRenderer c) kind children = some call) : (call s).1.linkLines = [] := by
  cases kind <;> cases h
  case frontMatter | softBreak | lineBreak => rfl
  case htmlBlock html =>
    show (Render.htmlBlock c html).linkLines = []
    unfold Render.htmlBlock
    split <;> exact linkLines_ofText _
  case htmlInline html =>
    show (Render.htmlInline c html).linkLines = []
    unfold Render.htmlInline
    split
    · rfl
    · exact linkLines_ofText html
  case image url =>
    have hoff : c.links = .off := by simpa [NodeKind.placesLinks] using hkind
    show (image c url _).linkLines = []
    rw [image, if_pos hoff]
    exact linkLines_ofText _
  -- all other leaves are text
  all_goals exact linkLines_ofText _

/-- Closing a node places no link line if its kind places none. -/
theorem linkLines_close (tight : Bool) {kind : NodeKind} (children : List Node)
    (hkind : !kind.placesLinks c.links) (h : content.linkLines = []) :
    (closeCall (gemtextRenderer c) tight kind children content s).1.linkLines = [] := by
  have hmarked (marker : Text) : (marked c marker content).linkLines = [] :=
    (filter_marked (fun _ => rfl) c marker content).trans h
  cases kind with
  | paragraph =>
    -- in a tight list a newline ends the line
    cases tight with
    | true =>
      show linkLines (content ++ [.char '\n']) = []
      rw [linkLines_append, h]
      rfl
    | false =>
      show (paragraph c content s).1.linkLines = []
      rw [paragraph_eq (by simpa [NodeKind.placesLinks] using hkind), linkLines_paragraphRegion]
      exact h
  | heading depth =>
    show (heading c content depth s).1.linkLines = []
    rw [heading_eq (by simpa [NodeKind.placesLinks] using hkind)]
    exact (filter_headingLine (fun _ => rfl) content depth).trans h
  | blockQuote =>
    show (blockQuote content).linkLines = []
    rw [linkLines, filter_blockQuote (fun _ => rfl) rfl, ← linkLines, linkLines_paragraphRegion,
      linkLines_flattenBlocks]
    exact h
  | emphasis => exact hmarked _
  | strong => exact hmarked _
  | link url => exact linkLines_link (by simpa [NodeKind.placesLinks] using hkind) url _ h
  | _ => exact h

/-- A list has the link lines of its entries. -/
theorem linkLines_list (ordered : Bool) (level start : Nat) {entries : List ListEntry}
    (h : ∀ e ∈ entries, e.content.linkLines = [] ∧ e.nested.linkLines = []) :
    (list c entries ordered level start).linkLines = [] := by
  rw [linkLines, filter_list fun _ => rfl, List.flatMap_eq_nil_iff]
  intro e he
  obtain ⟨hcontent, hnested⟩ := h e he
  rw [← linkLines, ← linkLines, hcontent, hnested]
  rfl

/-- A table places the link lines that were kept for it. -/
theorem linkLines_table {drawn : Content} {s' : RenderState} (hs : s.tableLinks = [])
    (h : table c s = (.ok drawn, s')) : drawn.linkLines = [] ∧ s'.tableLinks = [] := by
  unfold table at h
  split at h
  · cases h
    exact ⟨rfl, rfl⟩
  · split at h
    · cases h
    · -- the cells have left no link lines to be put behind the table
      cases h
      rw [hs, linkLines_append]
      exact ⟨by rw [preformatted, linkLines_ofText]; rfl, rfl⟩

/-- No call places a link line, for nodes that are not the place of one. -/
theorem keeps_linkless (c : Conversion) :
    (gemtextRenderer c).Keeps (fun node => !node.kind.placesLinks c.links)
      (fun s => s.tableLinks = []) fun content => content.linkLines = [] where
  nil := rfl
  append hc hd := by rw [linkLines_append, hc, hd]; rfl
  leaf hp hcall hs :=
    ⟨linkLines_leaf (everywhere_mk.1 hp).1 hcall, by rwa [state_leafCall hcall]⟩
  opening kind s hs := by rwa [(sameTable_openCall c s kind).tableLinks]
  closing tight kind children content s hp h hs :=
    ⟨linkLines_close tight children (everywhere_mk.1 hp).1 h,
      by rwa [(sameTable_closeCall c s tight kind children content).tableLinks]⟩
  item kind level content s h hs := by
    refine ⟨?_, by rwa [state_itemCall]⟩
    -- the box of an item is text
    cases kind with
    | taskItem symbol =>
      exact (filter_taskListItem (fun _ => rfl) c content symbol.isSome).trans
        ((linkLines_flattenBlocks content).trans h)
    | _ =>
      exact (filter_listItem (fun _ => rfl) content).trans
        ((linkLines_flattenBlocks content).trans h)
  list ordered level start _ _ h hs := ⟨linkLines_list ordered level start h, hs⟩
  cell alignment isHead content s h hs := by
    show s.tableLinks ++ content.linkLines = []
    rw [hs, h]
    rfl
  row kind cells s hs := by
    unfold rowCall
    split <;> exact ⟨rfl, hs⟩
  table _ hs h := linkLines_table hs h

end Render

end Gemtext
