import Gemtext.Standard.Library
import Gemtext.Proofs.Render.Reached
import Gemtext.Proofs.Render.TidyBlocks

/-!
# Blocks that do not depend on one another

In the modes without footnotes, the renderer carries nothing from block to block, and the layout
is behind every block where it was before it (`tidy_renderAll`).  So what is shown of the
blocks of two documents in a row is what is shown of the one and then of the other
(`shownLines_renderTree_append`), if the strings are tame and no block between fences stands in a
list item.
-/

namespace Gemtext

namespace Markdown

namespace Node

/-- Whether the strings of the node are tame, and its children stand where they belong. -/
def fits (c : Conversion) (node : Node) : Bool :=
  node.kind.isTame c && (node.fitsContent && node.fitsChildren)

/-- Whether the strings of the node and of all nodes below it are tame. -/
def isTame (c : Conversion) (node : Node) : Bool :=
  everywhere (fun node => node.kind.isTame c) node

/-- Whether no node below an item of a list is rendered between fences. -/
def itemsUnfenced (node : Node) : Bool :=
  everywhere (fun node => !node.isList || node.children.all unfenced) node

end Node

end Markdown

namespace Render

open Content Layout Markdown Node

variable {c : Conversion} {content : Content}

/-- Inline nodes are rendered to a bland line. -/
theorem blandLine_renderAll (hc : c.Tame) (hmode : ¬c.links.usesFootnotes) {level : Nat}
    {nodes : List Node} {s s' : RenderState} (hinline : nodes.all isInline)
    (htame : everywhereAll (fun node => node.kind.isTame c) nodes)
    (h : Yields (renderAll (gemtextRenderer c) level nodes) s content s') : BlandLine content := by
  refine (keepsInline_blandLine hc hmode).of_renderAll htame ?_ h
  rw [everywhereAll_eq_all]
  exact hinline

/-! ## Inside items -/

/-- A block without children that is not between fences is bland. -/
theorem blandBlock_leaf {kind : NodeKind} {children : List Node} {call : StateM RenderState Content}
    {s : RenderState} (hblock : kind.isBlock) (hunfenced : !kind.isFenced)
    (h : leafCall? (gemtextRenderer c) kind children = some call) : BlandBlock (call s).1 := by
  cases kind <;> cases h
  case frontMatter => exact .nil
  case thematicBreak =>
    show BlandBlock thematicBreak
    rw [thematicBreak_eq]
    exact .append_blankLine blandLine_dashes.bland
  -- all other leaves are inline nodes, or rendered between fences
  all_goals
    first
      | exact absurd hblock Bool.false_ne_true
      | exact absurd hunfenced Bool.false_ne_true

/-- An item holds blocks. -/
theorem all_isBlock_of_isItem {kind : NodeKind} {children : List Node} (hitem : kind.isItem)
    (h : fitsContent (mk kind children)) : children.all fun node => node.kind.isBlock := by
  cases kind with
  | item | taskItem => exact h
  | _ => cases hitem

mutual

/-- Blocks that are not rendered between fences show no fence. -/
theorem blandBlock_renderIn (hc : c.Tame) (hmode : ¬c.links.usesFootnotes) {tight : Bool}
    {level : Nat} {node : Node} {s s' : RenderState} {content : Content}
    (hblock : node.kind.isBlock)
    (hp : everywhere (fun node => node.fits c && !node.kind.isFenced) node)
    (h : Yields (renderIn (gemtextRenderer c) tight level node) s content s') :
    BlandBlock content := by
  obtain ⟨kind, children⟩ := node
  obtain ⟨hkind, hchildren⟩ := everywhere_mk.1 hp
  simp only [fits, Bool.and_eq_true] at hkind
  obtain ⟨⟨htame, hcontent, hfits⟩, hunfenced⟩ := hkind
  have hbelow := (everywhereAll_and.1 (everywhereAll_and.1 hchildren).1).1
  cases rendered_of_yields h with
  | leaf hleaf hcall =>
    have hleaf := blandBlock_leaf (s := s) hblock hunfenced hleaf
    rwa [hcall] at hleaf
  | @container inner between hcontainer hinner hcall =>
    obtain rfl : (closeCall (gemtextRenderer c) tight kind children inner between).1 = content := by
      rw [hcall]
    cases kind with
    | paragraph =>
      have hline := (blandLine_renderAll hc hmode hcontent hbelow hinner).bland
      cases tight with
      | true => exact .append_newline hline
      | false =>
        show BlandBlock (paragraph c inner between).1
        rw [paragraph_eq (not_isParagraphScoped hmode)]
        exact .paragraphRegion hline
    | heading depth =>
      have hline := blandLine_renderAll hc hmode hcontent hbelow hinner
      show BlandBlock (heading c inner depth between).1
      rw [heading_eq (not_isParagraphScoped hmode)]
      exact .append_blankLine (blandLine_heading depth hline).bland
    | blockQuote =>
      exact blandBlock_blockQuote (blandBlock_renderAll hc hmode hcontent hchildren hinner)
    -- all other containers are no blocks
    | _ =>
      first
        | exact absurd hblock Bool.false_ne_true
        | exact absurd hcontainer Bool.false_ne_true
  | @list shape _ _ hlist hitems hcall =>
    -- a list in an item is a list of bland entries again
    obtain rfl := hlist
    have hentries := blandEntry_renderItems hc hmode hfits hchildren hitems
    obtain rfl := (Prod.mk.inj hcall).1
    exact (blandBlock_list hc.indent hentries shape.ordered (level + 1) shape.start).1
  | table htable =>
    rw [htable] at hunfenced
    cases hunfenced

/-- Blocks that are not between fences are bland, one behind the other. -/
theorem blandBlock_renderAll (hc : c.Tame) (hmode : ¬c.links.usesFootnotes) {level : Nat}
    {nodes : List Node} {s s' : RenderState} {content : Content}
    (hblock : nodes.all fun node => node.kind.isBlock)
    (hp : everywhereAll (fun node => node.fits c && !node.kind.isFenced) nodes)
    (h : Yields (renderAll (gemtextRenderer c) level nodes) s content s') : BlandBlock content := by
  cases nodes with
  | nil =>
    obtain ⟨rfl, -⟩ := yields_renderAll_nil.1 h
    exact .nil
  | cons node nodes =>
    rw [List.all_cons, Bool.and_eq_true] at hblock
    obtain ⟨hnode, hnodes⟩ := everywhereAll_cons.1 hp
    obtain ⟨first, s₁, hfirst, others, hothers, rfl⟩ := yields_renderAll_cons.1 h
    exact (blandBlock_renderIn hc hmode hblock.1 hnode hfirst).append
      (blandBlock_renderAll hc hmode hblock.2 hnodes hothers)

/-- Items without blocks between fences make bland entries. -/
theorem blandEntry_renderItems (hc : c.Tame) (hmode : ¬c.links.usesFootnotes) {tight : Bool}
    {level : Nat} {items : List Node} {s s' : RenderState} {entries : List ListEntry}
    (hitems : items.all fun item => item.kind.isItem)
    (hp : everywhereAll (fun node => node.fits c && !node.kind.isFenced) items)
    (h : Yields (renderItems (gemtextRenderer c) tight level items) s entries s') :
    ∀ e ∈ entries, BlandEntry e := by
  cases items with
  | nil =>
    obtain ⟨rfl, -⟩ := yields_renderItems_nil.1 h
    simp
  | cons item items =>
    obtain ⟨kind, children⟩ := item
    rw [List.all_cons, Bool.and_eq_true] at hitems
    obtain ⟨hitem, hrest⟩ := everywhereAll_cons.1 hp
    obtain ⟨hkind, hchildren⟩ := everywhere_mk.1 hitem
    simp only [fits, Bool.and_eq_true] at hkind
    have hblock := all_isBlock_of_isItem hitems.1 hkind.1.2.1
    obtain ⟨parts, s₁, hparts, content, s₂, hcall, others, hothers, rfl⟩ :=
      yields_renderItems_cons.1 h
    -- the children of the item, and then the items behind it
    obtain ⟨hcontent, hnested⟩ := blandBlock_renderItemParts hc hmode hblock hchildren hparts
    have hentry := blandEntry_itemCall (c := c) (s := s₁) kind level hcontent.bland hnested
      (listed_renderItemParts hc.indent hparts)
    rw [hcall] at hentry
    exact List.forall_mem_cons.2 ⟨hentry, blandEntry_renderItems hc hmode hitems.2 hrest hothers⟩

/-- So do the children of an item, both the lists among them and the others. -/
theorem blandBlock_renderItemParts (hc : c.Tame) (hmode : ¬c.links.usesFootnotes) {tight : Bool}
    {level : Nat} {nodes : List Node} {s s' : RenderState} {parts : ListEntry}
    (hblock : nodes.all fun node => node.kind.isBlock)
    (hp : everywhereAll (fun node => node.fits c && !node.kind.isFenced) nodes)
    (h : Yields (renderItemParts (gemtextRenderer c) tight level nodes) s parts s') :
    BlandBlock parts.content ∧ BlandBlock parts.nested := by
  cases nodes with
  | nil =>
    obtain ⟨rfl, -⟩ := yields_renderItemParts_nil.1 h
    exact ⟨.nil, .nil⟩
  | cons node nodes =>
    rw [List.all_cons, Bool.and_eq_true] at hblock
    obtain ⟨hnode, hnodes⟩ := everywhereAll_cons.1 hp
    obtain ⟨content, s₁, hcontent, others, hothers, rfl⟩ := yields_renderItemParts_cons.1 h
    have hfirst := blandBlock_renderIn hc hmode hblock.1 hnode hcontent
    obtain ⟨hrest, hnested⟩ := blandBlock_renderItemParts hc hmode hblock.2 hnodes hothers
    unfold addPart
    split
    · exact ⟨hrest, hfirst.append hnested⟩
    · exact ⟨hfirst.append hrest, hnested⟩

end

/-! ## The links of a table -/

/-- The link lines of the cells are kept, and they are bland. -/
theorem blandLinks_renderCells (hc : c.Tame) (hmode : ¬c.links.usesFootnotes) {isHead : Bool}
    {alignments : List Alignment} {level : Nat} {cells : List Node} {s s' : RenderState}
    (hcells : cells.all fun cell => cell.kind = .tableCell)
    (hp : everywhereAll (fits c) cells) (hs : BlandLinks s.tableLinks)
    (h : Yields (renderCells (gemtextRenderer c) isHead alignments level cells) s content s') :
    BlandLinks s'.tableLinks := by
  induction cells generalizing alignments s content with
  | nil => rwa [(yields_renderCells_nil.1 h).2]
  | cons cell cells ih =>
    obtain ⟨kind, children⟩ := cell
    obtain ⟨inner, s₁, hinner, cell, s₂, hcall, others, hothers, rfl⟩ := yields_renderCells_cons.1 h
    rw [List.all_cons, Bool.and_eq_true, decide_eq_true_eq] at hcells
    obtain rfl : kind = .tableCell := hcells.1
    obtain ⟨hcell, hrest⟩ := everywhereAll_cons.1 hp
    obtain ⟨hkind, hchildren⟩ := everywhere_mk.1 hcell
    simp only [fits, Bool.and_eq_true] at hkind
    have hinline : children.all isInline := by simpa [fitsChildren] using hkind.2.2
    have hline := blandLine_renderAll hc hmode hinline (everywhereAll_and.1 hchildren).1 hinner
    refine ih hcells.2 hrest ?_ hothers
    -- the cell adds its links to those that are kept
    cases hcall
    show BlandLinks (s₁.tableLinks ++ inner.linkLines)
    rw [(sameTable_renderAll hinline hinner).tableLinks]
    exact hs.append hline.links.linkLines

/-- So are those of the rows. -/
theorem blandLinks_renderRows (hc : c.Tame) (hmode : ¬c.links.usesFootnotes)
    {alignments : List Alignment} {level : Nat} {rows : List Node} {s s' : RenderState}
    (hrows : rows.all fun row => row.kind.isRow)
    (hp : everywhereAll (fits c) rows) (hs : BlandLinks s.tableLinks)
    (h : Yields (renderRows (gemtextRenderer c) alignments level rows) s content s') :
    BlandLinks s'.tableLinks := by
  induction rows generalizing s content with
  | nil => rwa [(yields_renderRows_nil.1 h).2]
  | cons row rows ih =>
    obtain ⟨kind, children⟩ := row
    obtain ⟨cells, s₁, hcells, row, s₂, hcall, others, hothers, rfl⟩ := yields_renderRows_cons.1 h
    rw [List.all_cons, Bool.and_eq_true] at hrows
    obtain ⟨header, rfl⟩ := NodeKind.exists_eq_tableRow hrows.1
    obtain ⟨hrow, hrest⟩ := everywhereAll_cons.1 hp
    obtain ⟨hkind, hchildren⟩ := everywhere_mk.1 hrow
    simp only [fits, Bool.and_eq_true] at hkind
    have hbland := blandLinks_renderCells hc hmode (by simpa [fitsChildren] using hkind.2.2)
      hchildren hs hcells
    refine ih hrows.2 hrest ?_ hothers
    -- a row is put into the table, and its links stay
    cases header <;>
    · cases hcall
      exact hbland

/-! ## Blocks of a document -/

/-- A block without children is tidy and stands alone. -/
theorem tidy_leaf (hc : c.Tame) {kind : NodeKind} {children : List Node}
    {call : StateM RenderState Content} {s : RenderState} (hblock : kind.isBlock)
    (htame : kind.isTame c) (h : leafCall? (gemtextRenderer c) kind children = some call) :
    Tidy (call s).1 ∧ StandsAlone (call s).1 := by
  cases kind <;> cases h
  case frontMatter => exact ⟨.nil, .nil⟩
  case thematicBreak =>
    show Tidy thematicBreak ∧ StandsAlone thematicBreak
    rw [thematicBreak_eq]
    exact ⟨(BlandBlock.append_blankLine blandLine_dashes.bland).tidy,
      blandLine_dashes.standsAlone_append_blankLine⟩
  case codeBlock info literal =>
    obtain ⟨hinfo, hliteral⟩ := Bool.and_eq_true_iff.1 htame
    refine ⟨.ofText (ended_preformatted _ _),
      standsAlone_codeBlock hc hliteral fun text htext => ?_⟩
    split at htext
    · cases htext
    · rwa [← Option.some.inj htext]
  case htmlBlock literal =>
    refine ⟨?_, standsAlone_htmlBlock hc htame⟩
    show Tidy (Render.htmlBlock c literal)
    unfold Render.htmlBlock
    split
    · exact .ofText (.inr ⟨[], rfl⟩)
    · exact .ofText (ended_preformatted _ _)
  -- all other leaves are inline nodes
  all_goals exact absurd hblock Bool.false_ne_true

/-- A drawn table is tidy: bland link lines stand behind its fences. -/
theorem tidy_table {s : RenderState} (hs : s.FramedTable) (hlinks : TableLinksOnly s)
    (hbland : BlandLinks s.tableLinks) {drawn : Content} {s' : RenderState}
    (h : table c s = (.ok drawn, s')) : Tidy drawn := by
  rcases table_eq_ok hs h with rfl | ⟨text, rfl, -⟩
  · exact .nil
  · refine TidyFor.append (.ofText (ended_preformatted _ _)) ?_
    split
    · exact .nil
    · exact (BlandBlock.append_blankLine (BlandLine.of_isLink hlinks hbland).bland).tidy

mutual

/-- A block of a document leaves the layout as it found it. -/
theorem tidy_renderIn (hc : c.Tame) (hmode : ¬c.links.usesFootnotes) {level : Nat} {node : Node}
    {s s' : RenderState} {content : Content} (hblock : node.kind.isBlock)
    (hp : everywhere
      (fun node => node.fits c && (!node.isList || node.children.all unfenced)) node)
    (hs : Rested s) (h : Yields (renderIn (gemtextRenderer c) false level node) s content s') :
    Tidy content ∧ StandsAlone content := by
  obtain ⟨kind, children⟩ := node
  obtain ⟨hkind, hchildren⟩ := everywhere_mk.1 hp
  simp only [fits, Bool.and_eq_true] at hkind
  obtain ⟨⟨htame, hcontent, hfits⟩, hitems⟩ := hkind
  have hbelow := (everywhereAll_and.1 hchildren).1
  cases rendered_of_yields h with
  | leaf hleaf hcall =>
    have hleaf := tidy_leaf (s := s) hc hblock htame hleaf
    rwa [hcall] at hleaf
  | @container inner between hcontainer hinner hcall =>
    obtain rfl : (closeCall (gemtextRenderer c) false kind children inner between).1 = content := by
      rw [hcall]
    cases kind with
    | paragraph =>
      have hline := blandLine_renderAll hc hmode hcontent (everywhereAll_and.1 hbelow).1 hinner
      show Tidy (paragraph c inner between).1 ∧ StandsAlone (paragraph c inner between).1
      rw [paragraph_eq (not_isParagraphScoped hmode)]
      exact ⟨(BlandBlock.paragraphRegion hline.bland).tidy, hline.standsAlone_paragraphRegion⟩
    | heading depth =>
      have hline := blandLine_heading depth
        (blandLine_renderAll hc hmode hcontent (everywhereAll_and.1 hbelow).1 hinner)
      show Tidy (heading c inner depth between).1 ∧ StandsAlone (heading c inner depth between).1
      rw [heading_eq (not_isParagraphScoped hmode)]
      exact ⟨(BlandBlock.append_blankLine hline.bland).tidy, hline.standsAlone_append_blankLine⟩
    | blockQuote =>
      -- what is quoted need not stand alone, since it gets a marker on every line
      have htidy := (tidy_renderAll hc hmode hcontent hchildren hs hinner).1
      exact ⟨tidy_blockQuote htidy, standsAlone_blockQuote htidy⟩
    -- all other containers are no blocks
    | _ =>
      first
        | exact absurd hblock Bool.false_ne_true
        | exact absurd hcontainer Bool.false_ne_true
  | @list shape _ _ hlist hentries hcall =>
    -- from here on nothing is rendered between fences
    obtain rfl := hlist
    have hunfenced : everywhereAll (fun node => !node.kind.isFenced) children :=
      everywhereAll_eq_all children ▸ hitems
    have hentries := blandEntry_renderItems hc hmode hfits
      (everywhereAll_and.2 ⟨hbelow, hunfenced⟩) hentries
    obtain rfl := (Prod.mk.inj hcall).1
    exact (blandBlock_list hc.indent hentries shape.ordered (level + 1) shape.start).imp_left
      BlandBlock.tidy
  | table htable hrows hcall hall =>
    obtain rfl := htable
    rw [hall, content_renderRows hrows]
    -- the state holds nothing of another table, so all links that it keeps are those of the cells
    have hnone : s.FramedTable := fun t ht => by
      rw [hs.table] at ht
      cases ht
    have hempty : TableLinksOnly s := by simp [TableLinksOnly, hs.tableLinks]
    have htrue := everywhereAll_true children
    have hframed := ((keeps_framed c).of_renderRows htrue hnone hrows).2
    have hlinks := ((keeps_paired c).of_renderRows htrue hempty hrows).2
    have hbland := blandLinks_renderRows hc hmode (all_isRow_of_fitsChildren hfits).1 hbelow
      (by simp [BlandLinks, hs.tableLinks]) hrows
    exact ⟨tidy_table hframed hlinks hbland hcall,
      standsAlone_table hc hframed hlinks hbland hcall⟩

/-- Blocks one behind the other are tidy, and leave the layout as they found it. -/
theorem tidy_renderAll (hc : c.Tame) (hmode : ¬c.links.usesFootnotes) {level : Nat}
    {nodes : List Node} {s s' : RenderState} {content : Content}
    (hblock : nodes.all fun node => node.kind.isBlock)
    (hp : everywhereAll
      (fun node => node.fits c && (!node.isList || node.children.all unfenced)) nodes)
    (hs : Rested s) (h : Yields (renderAll (gemtextRenderer c) level nodes) s content s') :
    Tidy content ∧ StandsAlone content := by
  cases nodes with
  | nil =>
    obtain ⟨rfl, -⟩ := yields_renderAll_nil.1 h
    exact ⟨.nil, .nil⟩
  | cons node nodes =>
    rw [List.all_cons, Bool.and_eq_true] at hblock
    obtain ⟨hnode, hnodes⟩ := everywhereAll_cons.1 hp
    obtain ⟨first, s₁, hfirst, others, hothers, rfl⟩ := yields_renderAll_cons.1 h
    -- nothing of a table is left behind the first block
    obtain ⟨htidy, halone⟩ := tidy_renderIn hc hmode hblock.1 hnode hs hfirst
    obtain ⟨htidy', halone'⟩ :=
      tidy_renderAll hc hmode hblock.2 hnodes (rested_renderIn hs hfirst) hothers
    exact ⟨htidy.append htidy', halone.append halone'⟩

end

/-- In the modes without footnotes, nothing is carried over to what is rendered next. -/
theorem state_renderAll (hmode : ¬c.links.usesFootnotes) {level : Nat} {nodes : List Node}
    {s : RenderState}
    (h : Yields (renderAll (gemtextRenderer c) level nodes) .initial content s) : s = .initial := by
  have hrested := rested_renderAll ⟨⟨rfl, rfl⟩, rfl⟩ h
  obtain ⟨-, hnotes, hmark⟩ :=
    (keeps_noFootnotes hmode).of_renderAll (everywhereAll_true nodes) ⟨rfl, rfl⟩ h
  obtain ⟨⟨halignments, hlinks⟩, htable⟩ := hrested
  -- these are all the fields of the state
  cases s
  simp_all [RenderState.initial]

end Render

/-! ## Documents -/

open Content Markdown Node Render

variable {c : Conversion} {level : Nat} {nodes xs ys : List Node}

/-- A document is rendered as the blocks that it holds, and nothing is left for its end. -/
theorem renderTree_document_eq_ok (hmode : ¬c.links.usesFootnotes) {r : Rendition} :
    renderTree c level (.mk .document nodes) = .ok r ↔
      Yields (renderAll (gemtextRenderer c) level nodes) .initial r.body .initial ∧
        r.trailing = [] ∧ r.footnoteCount = 0 := by
  have hfinish : (finish c .initial).1 = [] := by
    rw [finish, renderFootnotes, flushFootnotes, if_neg hmode]
  rw [renderTree_eq_ok, renderIn_document]
  constructor
  · rintro ⟨s, hbody, htrailing, hcount⟩
    obtain rfl := state_renderAll hmode hbody
    exact ⟨hbody, htrailing.trans hfinish, hcount⟩
  · rintro ⟨hbody, htrailing, hcount⟩
    exact ⟨.initial, hbody, htrailing.trans hfinish.symm, hcount⟩

/-- In the modes without footnotes, blocks do not depend on one another. -/
theorem shownLines_renderTree_append (hc : c.Tame) (hmode : ¬c.links.usesFootnotes)
    (hblock : (xs ++ ys).all fun node => node.kind.isBlock)
    (hlayered : (xs ++ ys).all layered) (hshaped : (xs ++ ys).all wellShaped)
    (htame : (xs ++ ys).all (isTame c)) (hitems : (xs ++ ys).all itemsUnfenced) {rx ry : Rendition}
    (hx : renderTree c level (.mk .document xs) = .ok rx)
    (hy : renderTree c level (.mk .document ys) = .ok ry) :
    ∃ r, renderTree c level (.mk .document (xs ++ ys)) = .ok r ∧
      r.text.shownLines = rx.text.shownLines ++ ry.text.shownLines := by
  obtain ⟨hbody, htrailing, -⟩ := (renderTree_document_eq_ok hmode).1 hx
  obtain ⟨hbody', htrailing', -⟩ := (renderTree_document_eq_ok hmode).1 hy
  refine ⟨⟨rx.body ++ ry.body, [], 0⟩, (renderTree_document_eq_ok hmode).2
    ⟨yields_renderAll_append hbody hbody', rfl, rfl⟩, ?_⟩
  have hrested : Rested .initial := ⟨⟨rfl, rfl⟩, rfl⟩
  -- what the theorem asks of the trees, asked of each node
  have hall : everywhereAll
      (fun node => node.fits c && (!node.isList || node.children.all unfenced)) (xs ++ ys) :=
    everywhereAll_and.2 ⟨everywhereAll_and.2 ⟨(everywhereAll_eq_all _).trans htame,
      everywhereAll_and.2 ⟨(everywhereAll_eq_all _).trans hlayered,
        (everywhereAll_eq_all _).trans hshaped⟩⟩, (everywhereAll_eq_all _).trans hitems⟩
  rw [everywhereAll_eq_all, List.all_append, Bool.and_eq_true] at hall
  rw [List.all_append, Bool.and_eq_true] at hblock
  have halone := (tidy_renderAll hc hmode hblock.1
    ((everywhereAll_eq_all _).trans hall.1) hrested hbody).2
  have halone' := (tidy_renderAll hc hmode hblock.2
    ((everywhereAll_eq_all _).trans hall.2) hrested hbody').2
  rw [Rendition.text, Rendition.text, Rendition.text, htrailing, htrailing']
  exact shownLines_layout_append halone halone'

/-- A fence that is quoted opens none, and the line behind a link line is not stripped if it stands
in the next block. -/
theorem shownLines_renderTree_append_quote :
    let quote := Node.mk .blockQuote [.mk (.codeBlock [] ['c', '\n']) []]
    let link := Node.mk .paragraph [.mk (.link ['u']) [.mk (.text ['x']) []]]
    let code := Node.mk (.codeBlock [] [' ', 'd', '\n']) []
    let item := Node.mk .item [.mk .paragraph [.mk (.code ['b']) []]]
    let xs := [quote, link]
    let ys := [code, .mk (.list ⟨false, true, 1⟩) [item]]
    Conversion.standard.Tame ∧ ¬Conversion.standard.links.usesFootnotes ∧
      ((xs ++ ys).all fun node => node.kind.isBlock) ∧ (xs ++ ys).all layered ∧
      (xs ++ ys).all wellShaped ∧ (xs ++ ys).all (isTame .standard) ∧
      (xs ++ ys).all itemsUnfenced ∧
      ∃ rx ry r, renderTree .standard 0 (.mk .document xs) = .ok rx ∧
        renderTree .standard 0 (.mk .document ys) = .ok ry ∧
        renderTree .standard 0 (.mk .document (xs ++ ys)) = .ok r ∧
        r.text.shownLines = rx.text.shownLines ++ ry.text.shownLines ∧
        rx.text.shownLines = ["> ```", "> c", "> ```", "=> u x"].map String.toList ∧
        ry.text.shownLines = ["```", " d", "```", "* `b`"].map String.toList := by
  intro quote link code item xs ys
  have hmode : ¬Conversion.standard.links.usesFootnotes := by decide
  have hblock : (xs ++ ys).all fun node => node.kind.isBlock := by decide
  have hlayered : (xs ++ ys).all layered := by decide
  have hshaped : (xs ++ ys).all wellShaped := by decide
  have htame : (xs ++ ys).all (isTame .standard) := by decide
  have hitems : (xs ++ ys).all itemsUnfenced := by decide
  -- a quotation may hold fences, but an item of a list may not
  obtain ⟨rx, hx, hlines⟩ : ∃ rx, renderTree .standard 0 (.mk .document xs) = .ok rx ∧
      rx.text.shownLines = ["> ```", "> c", "> ```", "=> u x"].map String.toList :=
    ⟨_, rfl, by decide +kernel⟩
  obtain ⟨ry, hy, hlines'⟩ : ∃ ry, renderTree .standard 0 (.mk .document ys) = .ok ry ∧
      ry.text.shownLines = ["```", " d", "```", "* `b`"].map String.toList :=
    ⟨_, rfl, by decide +kernel⟩
  obtain ⟨r, hr, happend⟩ := shownLines_renderTree_append Config.tame_default hmode hblock hlayered
    hshaped htame hitems hx hy
  exact ⟨Config.tame_default, hmode, hblock, hlayered, hshaped, htame, hitems, rx, ry, r, hx, hy,
    hr, happend, hlines, hlines'⟩

end Gemtext
