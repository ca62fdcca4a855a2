import Gemtext.Standard.Library
import Gemtext.Proofs.Render.Independence
import Gemtext.Proofs.Render.LinkFree

/-!
# Fences behind link lines

A link line is put on a line of its own, so that what follows it begins a new line.  In a paragraph,
a heading or a quotation no fence follows there, since a block between fences begins on a line of
its own.  In an item the lines of all blocks are joined, and one may.  So if no item of a document
holds both a block between fences and the place of a link line (`Node.itemsApart`), nothing behind a
link line begins like a fence (`isFence_behind_link`), and the fences of the document come in pairs.
-/

namespace Gemtext

open Layout

/-- Whether every item of a list, at the node or below it, is without blocks between fences or
without places of link lines. -/
def Markdown.Node.itemsApart (mode : LinkMode) (node : Node) : Bool :=
  everywhere (fun node =>
    !node.isList || node.children.all fun item => item.unfenced || item.linkless mode) node

namespace Content

variable {c d : Content}

/-- No three backticks stand in a row in the text of the content. -/
def HoldsNoFence (c : Content) : Prop :=
  ¬fence <:+: plainText c

/-- Wherever a content that closes its code spans is cut, no fence stands behind the cut. -/
theorem Behind.of_closesSpans (h : ClosesSpans c) : Behind HoldsNoFence c :=
  fun _ _ hcut _ => h.not_fence_infix hcut

/-- Without link lines there is nothing behind one. -/
theorem Behind.of_linkLines {ok : Content → Prop} (h : c.linkLines = []) : Behind ok c :=
  fun _ _ hcut _ => by
    have hmem : .link _ ∈ c.linkLines := List.mem_filter.2 ⟨hcut.mem List.mem_cons_self, rfl⟩
    rw [h] at hmem
    cases hmem

/-- So a block of such content is tidy. -/
theorem TidyFor.of_closesSpans (h : ClosesSpans c) (hended : c.flattenBlocks.Ended) :
    TidyFor HoldsNoFence c :=
  ⟨hended, .of_closesSpans h.flattenBlocks⟩

/-- What a blank line ends holds nothing more behind a link line. -/
theorem TidyFor.append_blankLine {ok : Content → Prop} (h : Behind ok c.flattenBlocks) :
    TidyFor ok (c ++ Content.ofText ['\n', '\n']) where
  ended := .inr ⟨c.flattenBlocks ++ [.char '\n'], by
    rw [flattenBlocks_append, List.append_assoc]
    rfl⟩
  behind line rest hcut hrest := by
    rw [flattenBlocks_append] at hcut
    rcases List.isInfix_or_isInfix_of_append_cons (by simp [hrest]) hcut with hcut | hcut
    · exact h line rest hcut hrest
    · have hmem := hcut.mem List.mem_cons_self
      simp at hmem

/-- No fence stands behind a link line, be the content flattened, as it is in an item or in a
quotation, or laid out. -/
structure Apart (c : Content) : Prop where
  even : Even (c.count .boundary)
  tidy : TidyFor HoldsNoFence c
  laid : TidyFor HoldsNoFence c.layoutParagraphs

namespace Apart

theorem nil : Apart [] := ⟨⟨0, rfl⟩, .nil, .nil⟩

/-- Two blocks keep their fences apart from their link lines. -/
theorem append (hc : Apart c) (hd : Apart d) : Apart (c ++ d) where
  even := by
    rw [List.count_append]
    exact hc.even.add hd.even
  tidy := hc.tidy.append hd.tidy
  laid := by
    rw [layoutParagraphs_append hc.even]
    exact hc.laid.append hd.laid

/-- Without boundaries, a content is laid out as it is flattened. -/
theorem of_noBoundary (hnone : .boundary ∉ c) (h : TidyFor HoldsNoFence c) : Apart c where
  even := by
    rw [List.count_eq_zero.2 hnone]
    exact ⟨0, rfl⟩
  tidy := h
  laid := by rwa [layoutParagraphs_of_not_mem hnone]

theorem ofText {s : Text} (h : (Content.ofText s).Ended) : Apart (Content.ofText s) :=
  .of_noBoundary (Render.boundary_not_mem_ofText s) (.ofText h)

/-- A line and the blank line behind it are such a block. -/
theorem append_blankLine (h : ClosesSpans c) (hnone : .boundary ∉ c) :
    Apart (c ++ Content.ofText ['\n', '\n']) :=
  .of_noBoundary (List.not_mem_append hnone (by decide))
    (.append_blankLine (.of_closesSpans h.flattenBlocks))

/-- So is a paragraph between its boundaries. -/
theorem paragraphRegion (h : ClosesSpans c) (hnone : .boundary ∉ c) :
    Apart (Render.paragraphRegion c) where
  even := by
    simp only [Render.paragraphRegion, List.cons_append, List.count_cons, List.count_append,
      List.count_eq_zero.2 hnone]
    exact ⟨1, rfl⟩
  tidy := .of_closesSpans (Render.closesSpans_paragraphRegion h)
    (.inr ⟨.char '\n' :: c.flattenBlocks, by simp [Render.paragraphRegion, flattenBlocks]⟩)
  laid := by
    rw [layoutParagraphs_paragraphRegion hnone]
    exact .append_blankLine (.of_closesSpans h.trim.newlinesToSpaces.flattenBlocks)

end Apart

end Content

namespace Render

open Content Markdown Node

variable {c : Conversion} {content : Content} {s : RenderState}

/-! ## Calls for blocks -/

/-- A region of link lines has no fence and no boundary in it. -/
theorem apart_region_of_isLink {links : Content} (h : ∀ atom ∈ links, atom.isLink) :
    Apart (paragraphRegion links) :=
  .paragraphRegion (.of_isLink h) fun hmem => absurd (h _ hmem) Bool.false_ne_true

/-- A paragraph stands alone, or its footnotes follow it in a region of their own. -/
theorem apart_paragraph (h : ClosesSpans content) (hnone : .boundary ∉ content) :
    Apart (paragraph c content s).1 :=
  paragraph_of_regions .append apart_region_of_isLink (.paragraphRegion h hnone)

/-- A heading stands behind the footnotes that wait, and is a line with a blank one. -/
theorem apart_heading (level : Nat) (h : ClosesSpans content) (hnone : .boundary ∉ content) :
    Apart (heading c content level s).1 := by
  have hline : Apart (headingLine content level) := by
    have hfront : ClosesSpans (ofText (List.replicate level '#' ++ [' '])) :=
      .of_not_mem (by simp [ofText])
    exact .append_blankLine (hfront.append h.trim)
      (List.not_mem_append (boundary_not_mem_ofText _) fun hmem => hnone (mem_of_mem_trim hmem))
  exact heading_of_regions .append apart_region_of_isLink level hline

/-- What stands behind a link line in a quotation stands there in what is quoted. -/
theorem apart_blockQuote (h : TidyFor HoldsNoFence content) : Apart (blockQuote content) where
  even := (laysFences_blockQuote content).even
  tidy := tidy_blockQuote h
  laid := by
    rw [blockQuote_eq, layoutParagraphs_paragraphRegion (boundary_not_mem_quoted content),
      newlinesToSpaces_trim_quoted]
    -- trimming takes blank characters away at the ends of the first and the last line
    have hcut : (quoted content).trim.flattenBlocks <:+:
        Content.joinWith ['\n'] (quotedLines content) :=
      flattenBlocks_quoted content ▸ (Content.trim_isInfix _).map _
    refine .append_blankLine fun line rest hlink hrest => ?_
    exact behind_quotedLines h.behind line rest (hlink.trans hcut) hrest

/-- Code and raw markup stand between fences, without link lines. -/
theorem apart_leaf {kind : NodeKind} {children : List Node} {call : StateM RenderState Content}
    (hblock : kind.isBlock) (h : leafCall? (gemtextRenderer c) kind children = some call) :
    Apart (call s).1 := by
  cases kind <;> cases h
  case frontMatter => exact .nil
  case thematicBreak =>
    show Apart thematicBreak
    rw [thematicBreak_eq]
    exact .append_blankLine (.of_not_mem (by simp [ofText])) (boundary_not_mem_ofText _)
  case codeBlock => exact .ofText (ended_preformatted _ _)
  case htmlBlock html =>
    show Apart (Render.htmlBlock c html)
    unfold Render.htmlBlock
    split
    · exact .ofText (.inr ⟨[], rfl⟩)
    · exact .ofText (ended_preformatted _ _)
  -- all other leaves are inline nodes
  all_goals exact absurd hblock Bool.false_ne_true

/-- A table stands between fences, in front of its link lines. -/
theorem apart_table (hlinks : TableLinksOnly s) {drawn : Content} {s' : RenderState}
    (h : table c s = (.ok drawn, s')) : Apart drawn := by
  unfold table at h
  split at h
  · cases h
    exact .nil
  · split at h
    · cases h
    · cases h
      refine Apart.append (.ofText (ended_preformatted _ _)) ?_
      split
      · exact .nil
      · exact .append_blankLine (.of_isLink hlinks) fun hmem =>
          absurd (hlinks _ hmem) Bool.false_ne_true

/-! ## Lists -/

/-- A text in front holds no link line. -/
theorem isInfix_of_isInfix_ofText_append {front : Text} {line : LinkLine} {rest : Content}
    (h : .link line :: rest <:+: ofText front ++ content) : .link line :: rest <:+: content := by
  induction front with
  | nil => exact h
  | cons x front ih =>
    have hcons : ofText (x :: front) ++ content = .char x :: (ofText front ++ content) := rfl
    rw [hcons, List.infix_cons_iff] at h
    rcases h with hfront | h
    · simp [List.prefix_cons_iff] at hfront
    · exact ih h

/-- The lines of a list hold behind a link line what its entries do. -/
theorem behind_listLines {ok : Content → Prop} (indent : Text) (ordered : Bool) {number : Nat}
    {entries : List ListEntry} (h : ∀ e ∈ entries, Behind ok e.content ∧ Behind ok e.nested)
    {line : Content} (hline : line ∈ listLines indent ordered number entries) :
    Behind ok line := by
  intro link rest hcut hrest
  obtain ⟨e, he, hnested | ⟨k, rfl⟩⟩ := mem_listLines hline
  · -- a line of a list within the item is one that was cut out of it
    exact (h e he).2 link rest (hcut.trans (isInfix_of_mem_lines hnested)) hrest
  · -- what is cut out of the line of an item is cut out of its content
    exact (h e he).1 link rest
      ((isInfix_of_isInfix_ofText_append hcut).trans (Content.trim_isInfix _)) hrest

/-- A list keeps them apart if each of its items does. -/
theorem apart_list {entries : List ListEntry}
    (h : ∀ e ∈ entries, Behind HoldsNoFence e.content ∧ Behind HoldsNoFence e.nested)
    (ordered : Bool) (level start : Nat)
    (hunbroken : (list c entries ordered level start).filter Atom.isBreak = []) :
    Apart (list c entries ordered level start) := by
  refine .of_noBoundary (noBoundary_of_unbroken hunbroken) ?_
  rw [list, List.filter_append, List.append_eq_nil_iff] at hunbroken
  refine .append_blankLine fun line rest hcut hrest => ?_
  rw [flattenBlocks_of_unbroken hunbroken.1] at hcut
  obtain ⟨listed, hlisted, hcut⟩ :=
    exists_isInfix_of_isInfix_joinWith (by simp [hrest]) hcut
  exact behind_listLines _ ordered h hlisted line rest hcut hrest

/-- In the entries of a list no fence stands behind a link line, if no item holds both. -/
theorem behind_renderItems (hc : c.Plain) {tight : Bool} {level : Nat} {items : List Node}
    {s s' : RenderState} {entries : List ListEntry}
    (hplain : everywhereAll (fun node => node.kind.isPlain) items)
    (hitems : items.all fun item => item.unfenced || item.linkless c.links) (hs : Rested s)
    (h : Yields (renderItems (gemtextRenderer c) tight level items) s entries s') :
    ∀ e ∈ entries, Behind HoldsNoFence e.content ∧ Behind HoldsNoFence e.nested := by
  induction items generalizing s entries with
  | nil =>
    obtain ⟨rfl, -⟩ := yields_renderItems_nil.1 h
    simp
  | cons item items ih =>
    obtain ⟨kind, children⟩ := item
    obtain ⟨hitem, hplain⟩ := everywhereAll_cons.1 hplain
    rw [List.all_cons, Bool.and_eq_true, Bool.or_eq_true] at hitems
    obtain ⟨parts, s₁, hparts, content, s₂, hcall, others, hothers, rfl⟩ :=
      yields_renderItems_cons.1 h
    have hentry : Behind HoldsNoFence content ∧ Behind HoldsNoFence parts.nested := by
      rcases hitems.1 with hunfenced | hlinkless
      · -- what is rendered closes its code spans
        have hkeeps := keeps_closesSpans hc
        have hchildren := (everywhere_mk.1 (everywhere_and.2 ⟨hitem, hunfenced⟩)).2
        obtain ⟨⟨hcontent, hnested⟩, -⟩ := hkeeps.of_renderItemParts hchildren trivial hparts
        have hkept := (hkeeps.item kind level (s := s₁) hcontent trivial).1
        rw [hcall] at hkept
        exact ⟨.of_closesSpans hkept, .of_closesSpans hnested⟩
      · -- there is no link line
        have hkeeps := keeps_linkless c
        have hchildren := (everywhere_mk.1 hlinkless).2
        obtain ⟨⟨hcontent, hnested⟩, hs₁⟩ :=
          hkeeps.of_renderItemParts hchildren hs.tableLinks hparts
        have hkept := (hkeeps.item kind level hcontent hs₁).1
        rw [hcall] at hkept
        exact ⟨.of_linkLines hkept, .of_linkLines hnested⟩
    have hstate := state_itemCall c s₁ kind parts.content level
    rw [hcall] at hstate
    obtain rfl : s₂ = s₁ := hstate
    exact List.forall_mem_cons.2 ⟨hentry,
      ih hplain hitems.2 (rested_renderItemParts hs hparts) hothers⟩

/-! ## Blocks -/

mutual

/-- A block keeps its fences apart from its link lines if every item within it does. -/
theorem apart_renderIn (hc : c.Plain) {level : Nat} {node : Node} {s s' : RenderState}
    {content : Content} (hblock : node.kind.isBlock) (hplain : node.isPlain)
    (hlayered : node.layered) (hitems : node.itemsApart c.links) (hs : Rested s)
    (h : Yields (renderIn (gemtextRenderer c) false level node) s content s') : Apart content := by
  obtain ⟨kind, children⟩ := node
  obtain ⟨-, hchildren⟩ := everywhere_mk.1 hplain
  obtain ⟨hfits, hbelow⟩ := everywhere_mk.1 hlayered
  obtain ⟨hnode, hitems⟩ := everywhere_mk.1 hitems
  cases rendered_of_yields h with
  | leaf hleaf hcall =>
    have hapart := apart_leaf (s := s) hblock hleaf
    rwa [hcall] at hapart
  | @container inner between hcontainer hinner hcall =>
    obtain rfl : (closeCall (gemtextRenderer c) false kind children inner between).1 = content := by
      rw [hcall]
    -- of a paragraph or a heading the content is a line
    have hline (hinline : children.all isInline) : ClosesSpans inner ∧ .boundary ∉ inner :=
      ⟨closesSpans_renderAll hc hchildren hinline hinner,
        (spannedLine_renderAll hc hchildren hinline hinner).noBoundary⟩
    cases kind with
    | paragraph => exact apart_paragraph (hline hfits).1 (hline hfits).2
    | heading depth => exact apart_heading depth (hline hfits).1 (hline hfits).2
    | blockQuote =>
      exact apart_blockQuote (apart_renderAll hc hfits hchildren hbelow hitems hs hinner).tidy
    -- all other containers are no blocks
    | _ =>
      first
        | exact absurd hblock Bool.false_ne_true
        | exact absurd hcontainer Bool.false_ne_true
  | @list shape _ _ hlist hentries hcall =>
    obtain rfl := hlist
    have hbehind := behind_renderItems hc hchildren hnode hs hentries
    have hunbroken := (listed_renderIn hc.indent rfl h).unbroken
    obtain rfl := (Prod.mk.inj hcall).1
    exact apart_list hbehind shape.ordered (level + 1) shape.start hunbroken
  | table htable hrows hcall hcontent =>
    rw [hcontent, content_renderRows hrows]
    have hempty : TableLinksOnly s := by simp [TableLinksOnly, hs.tableLinks]
    exact apart_table ((keeps_paired c).of_renderRows (everywhereAll_true children) hempty hrows).2
      hcall

/-- So do blocks one behind the other. -/
theorem apart_renderAll (hc : c.Plain) {level : Nat} {nodes : List Node} {s s' : RenderState}
    {content : Content} (hblock : nodes.all fun node => node.kind.isBlock)
    (hplain : everywhereAll (fun node => node.kind.isPlain) nodes)
    (hlayered : everywhereAll fitsContent nodes)
    (hitems : everywhereAll (fun node => !node.isList ||
      node.children.all fun item => item.unfenced || item.linkless c.links) nodes) (hs : Rested s)
    (h : Yields (renderAll (gemtextRenderer c) level nodes) s content s') : Apart content := by
  cases nodes with
  | nil =>
    obtain ⟨rfl, -⟩ := yields_renderAll_nil.1 h
    exact .nil
  | cons node nodes =>
    rw [List.all_cons, Bool.and_eq_true] at hblock
    obtain ⟨hplain, hplains⟩ := everywhereAll_cons.1 hplain
    obtain ⟨hlayered, hlayereds⟩ := everywhereAll_cons.1 hlayered
    obtain ⟨hnode, hnodes⟩ := everywhereAll_cons.1 hitems
    obtain ⟨first, s₁, hfirst, others, hothers, rfl⟩ := yields_renderAll_cons.1 h
    exact (apart_renderIn hc hblock.1 hplain hlayered hnode hs hfirst).append
      (apart_renderAll hc hblock.2 hplains hlayereds hnodes (rested_renderIn hs hfirst) hothers)

end

end Render

/-! ## Documents -/

open Content Markdown Render Node

/-- So does the body of a document, whichever node it is rendered of. -/
theorem Render.apart_body {c : Conversion} (hc : c.Plain) {level : Nat} {tree : Node}
    {s : RenderState} {content : Content} (hroot : tree.kind = .document ∨ tree.kind.isBlock)
    (hplain : tree.isPlain) (hlayered : tree.layered) (hitems : tree.itemsApart c.links)
    (h : Yields (tree.renderIn (gemtextRenderer c) false level) .initial content s) :
    Apart content := by
  have hrested : Rested .initial := ⟨⟨rfl, rfl⟩, rfl⟩
  rcases hroot with hroot | hblock
  · obtain ⟨kind, children⟩ := tree
    obtain rfl : kind = .document := hroot
    obtain ⟨hfits, hbelow⟩ := everywhere_mk.1 hlayered
    rw [renderIn_document] at h
    exact apart_renderAll hc hfits (everywhere_mk.1 hplain).2 hbelow (everywhere_mk.1 hitems).2
      hrested h
  · exact apart_renderIn hc hblock hplain hlayered hitems hrested h

/-- If no item of a document holds both a block between fences and the place of a link line, then
nothing behind a link line begins like a fence. -/
theorem isFence_behind_link {c : Conversion} {level : Nat} {tree : Node} {r : Rendition}
    (hc : c.Plain) (hroot : tree.kind = .document ∨ tree.kind.isBlock) (hplain : tree.isPlain)
    (hlayered : tree.layered) (hitems : tree.itemsApart c.links)
    (h : renderTree c level tree = .ok r) {before : Content} {line : LinkLine} {after : Content}
    (hlink : r.body.layoutParagraphs.resolveHardBreaks = before ++ .link line :: after) :
    isFence (lead after).trimStart = false := by
  obtain ⟨s, hbody, -, -⟩ := renderTree_eq_ok.1 h
  have hbehind := (apart_body hc hroot hplain hlayered hitems hbody).laid.behind
  rw [← resolveHardBreaks_eq_flattenBlocks (boundary_not_mem_layoutParagraphs r.body), hlink]
    at hbehind
  -- what begins the line behind the link line is cut off where the next one begins
  let rest := after.takeWhile fun atom => !atom.isLink && atom != .char '\n'
  have hcut : .link line :: rest <:+: before ++ .link line :: after := by
    obtain ⟨more, hmore⟩ := List.takeWhile_prefix
      (fun atom => !atom.isLink && atom != .char '\n') (l := after)
    exact ⟨before, more, by rw [List.append_assoc, List.cons_append, hmore]⟩
  have hnewline : .char '\n' ∉ rest := fun hmem =>
    absurd (List.all_eq_true.1 List.all_takeWhile _ hmem) (by decide)
  have hfree : ¬fence <:+: lead after := hbehind line rest hcut hnewline
  exact Bool.eq_false_iff.2 fun hseems => hfree (fence_isInfix_of_seemsFence hseems)

/-- A document with plain strings, rendered with plain options, has an even number of fences, if
none of its items holds both a block between fences and the place of a link line. -/
theorem even_fences_of_itemsApart {c : Conversion} {level : Nat} {tree : Node} {r : Rendition}
    (hc : c.Plain) (hroot : tree.kind = .document ∨ tree.kind.isBlock) (hplain : tree.isPlain)
    (hlayered : tree.layered) (hitems : tree.itemsApart c.links)
    (h : renderTree c level tree = .ok r) : Even (r.text.lines.countP isFence) :=
  even_fences_layout (fenced_body hc hroot hplain hlayered h) (isLink_of_mem_trailing h)
    (newline_not_mem_print hc hplain h)
    fun _ _ _ => isFence_behind_link hc hroot hplain hlayered hitems h

/-- The items of one list may hold code and links, if they do so apart. -/
example :
    let code := Node.mk (.codeBlock [] ['c', '\n']) []
    let link := Node.mk .paragraph [.mk (.link ['u']) [.mk (.text ['x']) []]]
    let list (items : List Node) := Node.mk (.list ⟨false, false, 1⟩) items
    (list [.mk .item [link], .mk .item [code]]).itemsApart .newline ∧
      ¬(list [.mk .item [link, code]]).itemsApart .newline := by
  decide

end Gemtext
