import Gemtext.Convert
import Gemtext.Standard.Library
import Gemtext.Proofs.Render.Frame
import Gemtext.Proofs.Render.Invariant
import Gemtext.Proofs.Render.Marks
import Gemtext.Proofs.Render.Numbering
import Gemtext.Proofs.Render.Tables

/-!
# No link is lost or written twice

A link of the tree travels to its link line by many ways: in place, out of a link around it, as a
footnote behind a paragraph, before a heading or at the end, as the line of a paragraph of its own,
or from the cell of a table to the lines behind the table.  `RenderState.due` are the targets that
still wait in the state for a line.  Every step writes or keeps due what was due before and what
its part of the tree asks for (`Settles`), so at the end the link lines of the document have just
the targets that the tree asks for (`linkUrls_renderTree_perm`).
-/

namespace Gemtext

namespace Content

/-- The targets of the link lines of the content, in order. -/
def linkUrls (c : Content) : List Text :=
  c.filterMap fun
    | .link line => some line.url
    | _ => none

variable {c d : Content}

/-- Only link lines matter. -/
theorem linkUrls_congr (h : c.filter Atom.isLink = d.filter Atom.isLink) :
    c.linkUrls = d.linkUrls := by
  have hlinks (c : Content) : linkUrls (c.filter Atom.isLink) = c.linkUrls := by
    rw [linkUrls, linkUrls, List.filterMap_filter]
    congr 1
    funext atom
    cases atom <;> rfl
  rw [← hlinks c, ← hlinks d, h]

/-- Without link lines there are no targets. -/
theorem linkUrls_eq_nil (h : c.filter Atom.isLink = []) : c.linkUrls = [] :=
  linkUrls_congr (h.trans List.filter_nil.symm)

@[simp]
theorem linkUrls_append : (c ++ d).linkUrls = c.linkUrls ++ d.linkUrls :=
  List.filterMap_append

@[simp]
theorem linkUrls_link (line : LinkLine) : linkUrls (.link line :: c) = line.url :: c.linkUrls := rfl

@[simp]
theorem linkUrls_boundary : linkUrls (.boundary :: c) = c.linkUrls := rfl

@[simp]
theorem linkUrls_nil : linkUrls [] = [] := rfl

@[simp]
theorem linkUrls_ofText (s : Text) : (ofText s).linkUrls = [] :=
  linkUrls_eq_nil (filter_ofText (fun _ => rfl) s)

@[simp]
theorem linkUrls_linkLines : c.linkLines.linkUrls = c.linkUrls :=
  linkUrls_congr (by rw [linkLines, List.filter_filter]; simp)

@[simp]
theorem linkUrls_paragraphRegion : (Render.paragraphRegion c).linkUrls = c.linkUrls := by
  simp [Render.paragraphRegion]

/-- A blank content has no targets. -/
theorem linkUrls_of_isBlank (h : c.isBlank) : c.linkUrls = [] :=
  linkUrls_eq_nil (filter_of_isBlank (fun _ => rfl) (List.all_eq_true.1 h))

/-- Flattening moves no link line. -/
@[simp]
theorem linkUrls_flattenBlocks : c.flattenBlocks.linkUrls = c.linkUrls := by
  refine linkUrls_congr ?_
  rw [filter_flattenBlocks fun _ => rfl]
  congr 1
  funext atom
  cases atom <;> rfl

/-- There is a cell for each cell end. -/
theorem length_cells (c : Content) : c.cells.length = c.count .cellEnd := by
  induction c with
  | nil => rfl
  | cons atom rest ih =>
    rw [cells, List.count_cons]
    by_cases hend : atom = .cellEnd
    · simp [hend, ih]
    · simp only [hend, if_false, beq_iff_eq, Nat.add_zero, ← ih]
      split <;> simp [*]

end Content

/-! ## What a tree asks for -/

namespace Markdown

open NodeKind

/-- The target that a link or an image asks for itself.  A link within the document asks for none,
and none is asked for when links are off. -/
def NodeKind.ownTargets (c : Conversion) : NodeKind → List Text
  | link url =>
    if url.trim.head? = some '#' || c.links = .off then [] else [(c.resolveTarget url).trim]
  | image url => if c.links = .off then [] else [(c.applyBaseUrl url.trim).trim]
  | _ => []

namespace Node

mutual

/-- The targets of the links and images of the tree; what stands below an image is its label
only. -/
def targets (c : Conversion) : Node → List Text
  | mk kind children =>
    match kind with
    | .image _ => kind.ownTargets c
    | _ => kind.ownTargets c ++ targetsAll c children

/-- The targets of the links and images of the trees. -/
def targetsAll (c : Conversion) : List Node → List Text
  | [] => []
  | node :: nodes => targets c node ++ targetsAll c nodes

end

variable {c : Conversion} {kind : NodeKind} {children : List Node}

mutual

/-- Without links nothing is asked for. -/
theorem targets_of_off (h : c.links = .off) (node : Node) : targets c node = [] := by
  cases node with
  | mk kind children =>
    have hown : kind.ownTargets c = [] := by
      cases kind <;> simp [NodeKind.ownTargets, h]
    unfold targets
    split <;> simp only [hown, List.nil_append, targetsAll_of_off h children]

/-- Without links nothing is asked for. -/
theorem targetsAll_of_off (h : c.links = .off) (nodes : List Node) : targetsAll c nodes = [] := by
  cases nodes with
  | nil => rfl
  | cons node nodes => rw [targetsAll, targets_of_off h, targetsAll_of_off h, List.nil_append]

end

theorem targets_item (h : kind.isItem) : targets c (mk kind children) = targetsAll c children := by
  cases kind <;> first | rfl | cases h

/-- A container asks for its own target and those of its children. -/
theorem targets_container (h : isContainer kind) :
    targets c (mk kind children) = kind.ownTargets c ++ targetsAll c children := by
  cases kind <;> first | rfl | cases h

end Node

end Markdown

/-! ## What waits for its line -/

/-- The targets that wait in the state: those of the footnotes, and those kept for after the
table. -/
def RenderState.due (s : RenderState) : List Text :=
  s.footnotes.pending.map (·.url.trim) ++ s.tableLinks.linkUrls

/-- The step from `s` to `s'` writes the link lines of `content`.  With what it leaves due, they
have the targets that it owes and those that were due before. -/
def Settles (owed : List Text) (s : RenderState) (content : Content) (s' : RenderState) : Prop :=
  (content.linkUrls ++ s'.due).Perm (owed ++ s.due)

namespace Settles

variable {owed owed' : List Text} {s s₁ s₂ : RenderState} {content content' : Content}

/-- A step that leaves what is due settles what it writes. -/
theorem of_eq (hcontent : content.linkUrls = owed) (hs : s₁.due = s.due) :
    Settles owed s content s₁ := by
  rw [Settles, hcontent, hs]

/-- Targets are settled as often as they are owed. -/
theorem count (h : Settles owed s content s₁) (url : Text) :
    content.linkUrls.count url + s₁.due.count url = owed.count url + s.due.count url := by
  rw [← List.count_append, ← List.count_append]
  exact List.Perm.count h url

/-- And what is settled as often is settled. -/
theorem of_count (h : ∀ url,
    content.linkUrls.count url + s₁.due.count url = owed.count url + s.due.count url) :
    Settles owed s content s₁ :=
  List.perm_iff_count.2 fun url => by
    rw [List.count_append, List.count_append]
    exact h url

/-- What one step leaves due, the next one finds due. -/
theorem append (h : Settles owed s content s₁) (h' : Settles owed' s₁ content' s₂) :
    Settles (owed ++ owed') s (content ++ content') s₂ := by
  refine of_count fun url => ?_
  have hfirst := h.count url
  have hsecond := h'.count url
  simp only [Content.linkUrls_append, List.count_append]
  omega

/-- A step that is given a content owes its link lines, too. -/
theorem closed {own : List Text} (h : Settles owed s content s₁)
    (h' : Settles (own ++ content.linkUrls) s₁ content' s₂) :
    Settles (own ++ owed) s content' s₂ := by
  refine of_count fun url => ?_
  have hfirst := h.count url
  have hsecond := h'.count url
  simp only [List.count_append] at hsecond ⊢
  omega

/-- Only the link lines of the content matter. -/
theorem congr (h : Settles owed s content s₁) (hcontent : content'.linkUrls = content.linkUrls) :
    Settles owed s content' s₁ := by
  rwa [Settles, hcontent]

end Settles

namespace Render

open Content Markdown Node

variable {c : Conversion} {s : RenderState} {content : Content}

/-! ## The calls -/

/-- Whatever its label is, the line of a footnote has its target. -/
theorem url_footnoteLine (mode : LinkMode) (number : Nat) (note : Footnote) :
    (footnoteLine mode number note).url = note.url.trim := by
  cases mode <;> rfl

/-- Footnotes are handed out with their targets, in order. -/
theorem linkUrls_footnoteLines (mode : LinkMode) (first : Nat) (notes : List Footnote) :
    (footnoteLines mode first notes).linkUrls = notes.map (·.url.trim) := by
  induction notes generalizing first with
  | nil => rfl
  | cons note notes ih =>
    have hcons : footnoteLines mode first (note :: notes) =
        .link (footnoteLine mode first note) :: footnoteLines mode (first + 1) notes := by
      simp [footnoteLines]
    rw [hcons, linkUrls_link, url_footnoteLine, ih, List.map_cons]

/-- What is handed out is no longer due. -/
theorem settles_flushFootnotes (c : Conversion) (s : RenderState) (limit : Nat) :
    Settles [] s (flushFootnotes c limit s).1 (flushFootnotes c limit s).2 := by
  unfold flushFootnotes
  split
  · refine List.Perm.of_eq ?_
    simp only [linkUrls_footnoteLines, RenderState.due, Footnotes.oldest, Footnotes.drop,
      ← List.append_assoc, ← List.map_append, List.take_append_drop, List.nil_append]
  · exact .of_eq rfl rfl

/-- A link becomes a link line or a footnote, unless it leads nowhere. -/
theorem settles_link (url inner : Text) :
    Settles ((NodeKind.link url).ownTargets c ++ content.linkUrls) s (link c url content inner s).1
      (link c url content inner s).2 := by
  have htarget : c.resolveTarget url.trim = c.resolveTarget url := by
    simp only [Conversion.resolveTarget, Text.trim_trim]
  by_cases hnowhere : url.trim.head? = some '#' || c.links = .off
  · -- the content of the link takes its place, and a blank one has no links
    have hshown : (if content.isBlank then ofText url.trim else content).linkUrls =
        content.linkUrls := by
      split
      · rw [linkUrls_ofText, linkUrls_of_isBlank ‹_›]
      · rfl
    simp only [link, NodeKind.ownTargets, hnowhere, if_true, List.nil_append]
    exact .of_eq hshown rfl
  · simp only [link, NodeKind.ownTargets, hnowhere, Bool.false_eq_true, if_false, htarget]
    by_cases hnotes : c.links.usesFootnotes
    · -- the target is due from now on
      simp only [hnotes, if_true]
      refine Settles.of_count fun u => ?_
      simp only [linkUrls_append, linkUrls_ofText, linkUrls_linkLines, RenderState.due,
        Footnotes.register, List.map_append, List.map_cons, List.map_nil, List.count_append,
        List.nil_append]
      omega
    · simp only [hnotes, Bool.false_eq_true, if_false]
      exact .of_eq (by simp [LinkLine.ofTrimmed]) rfl

/-- A paragraph writes its links, and its footnotes or the line of a withdrawn one. -/
theorem settles_paragraph :
    Settles content.linkUrls s (paragraph c content s).1 (paragraph c content s).2 := by
  unfold paragraph
  dsimp only
  split
  · rename_i note footnotes hsingle
    -- the withdrawn footnote is the only one that was due
    have hdemote : s.footnotes.demote? = some (note, footnotes) :=
      (Option.ite_none_right_eq_some.1 hsingle).2
    obtain ⟨hpending, rfl⟩ := Footnotes.demote?_eq_some.1 hdemote
    refine Settles.of_count fun u => ?_
    simp only [linkUrls_paragraphRegion, linkUrls_link, linkUrls_linkLines, plainLine,
      LinkLine.ofTrimmed, RenderState.due, hpending, List.map_cons, List.map_nil, List.count_append,
      List.count_cons, List.nil_append, List.count_nil]
    omega
  · split
    · have hcontent : Settles content.linkUrls s (paragraphRegion content) s :=
        .of_eq linkUrls_paragraphRegion rfl
      have hnotes := settles_flushFootnotes c s s.footnotes.pending.length
      have hboth := hcontent.append (hnotes.congr linkUrls_paragraphRegion)
      rwa [List.append_nil] at hboth
    · exact .of_eq linkUrls_paragraphRegion rfl

/-- A heading writes its links behind the footnotes that waited before it. -/
theorem settles_heading (level : Nat) :
    Settles content.linkUrls s (heading c content level s).1 (heading c content level s).2 := by
  have hline : (headingLine content level).linkUrls = content.linkUrls :=
    linkUrls_congr (filter_headingLine (fun _ => rfl) ..)
  unfold heading
  split
  · have hnotes := settles_flushFootnotes c { s with headingMark := 0 } s.headingMark
    exact (hnotes.congr linkUrls_paragraphRegion).append (.of_eq hline rfl)
  · exact .of_eq hline rfl

/-- An image settles its own target; nothing else without children has one. -/
theorem settles_leaf {kind : NodeKind} {children : List Node} {call : StateM RenderState Content}
    (hshape : fitsChildren (.mk kind children))
    (h : leafCall? (gemtextRenderer c) kind children = some call) :
    Settles (targets c (.mk kind children)) s (call s).1 (call s).2 := by
  refine .of_eq ?_ (congrArg RenderState.due (state_leafCall h s))
  cases kind <;> cases h
  case image url =>
    show (image c url _).linkUrls = (NodeKind.image url).ownTargets c
    by_cases hoff : c.links = .off <;> simp [image, NodeKind.ownTargets, hoff, LinkLine.ofTrimmed]
  all_goals
    -- every other leaf writes text only, and nothing stands below it
    obtain rfl : children = [] := by simpa [fitsChildren, NodeKind.isLeaf] using hshape
    show Content.linkUrls _ = []
  case htmlBlock html =>
    show (Render.htmlBlock c html).linkUrls = []
    unfold Render.htmlBlock
    split <;> exact linkUrls_ofText _
  case htmlInline html =>
    show (Render.htmlInline c html).linkUrls = []
    unfold Render.htmlInline
    split
    · rfl
    · exact linkUrls_ofText _
  all_goals first | rfl | exact linkUrls_ofText _

/-- Closing a container settles its own target. -/
theorem settles_closeCall (c : Conversion) (s : RenderState) (tight : Bool) {kind : NodeKind}
    (hkind : isContainer kind) (children : List Node) (content : Content) :
    Settles (kind.ownTargets c ++ content.linkUrls) s
      (closeCall (gemtextRenderer c) tight kind children content s).1
      (closeCall (gemtextRenderer c) tight kind children content s).2 := by
  have hmarked (marker : Text) : (marked c marker content).linkUrls = content.linkUrls :=
    linkUrls_congr (filter_marked (fun _ => rfl) ..)
  cases kind with
  | paragraph =>
    -- in a tight list a newline ends the line
    cases tight with
    | true =>
      have hblock : linkUrls (content ++ [.char '\n']) = content.linkUrls := by
        rw [linkUrls_append]
        exact List.append_nil _
      exact .of_eq hblock rfl
    | false => exact settles_paragraph
  | heading depth => exact settles_heading depth
  | blockQuote =>
    have hquote : (blockQuote content).linkUrls = content.linkUrls := by
      rw [linkUrls_congr (filter_blockQuote (fun _ => rfl) rfl content), linkUrls_paragraphRegion,
        linkUrls_flattenBlocks]
    exact .of_eq hquote rfl
  | emphasis => exact .of_eq (hmarked _) rfl
  | strong => exact .of_eq (hmarked _) rfl
  | link url => exact settles_link url _
  | image url => cases hkind
  | _ => exact .of_eq rfl rfl

/-- The box of an item has no target. -/
theorem linkUrls_itemCall (c : Conversion) (s : RenderState) (kind : NodeKind) (content : Content)
    (level : Nat) :
    (itemCall (gemtextRenderer c) kind content level s).1.linkUrls = content.linkUrls := by
  have hitem : (listItem content).linkUrls = content.linkUrls := by
    rw [linkUrls_congr (filter_listItem (fun _ => rfl) content), linkUrls_flattenBlocks]
  have htask (checked : Bool) : (taskListItem c content checked).linkUrls = content.linkUrls := by
    rw [linkUrls_congr (filter_taskListItem (fun _ => rfl) c content checked),
      linkUrls_flattenBlocks]
  cases kind with
  | taskItem symbol => exact htask _
  | _ => exact hitem

/-- A list has the targets of its entries. -/
theorem linkUrls_list (ordered : Bool) (level start : Nat) (entries : List ListEntry) :
    (list c entries ordered level start).linkUrls =
      linkUrls (entries.flatMap fun e => e.content ++ e.nested) := by
  refine linkUrls_congr ?_
  rw [filter_list fun _ => rfl, List.filter_flatMap]
  simp only [List.filter_append]

/-! ## Tables -/

/-- A cell keeps its links for after the table. -/
theorem settles_tableCell (s : RenderState) (content : Content) (alignment : Alignment) :
    Settles content.linkUrls s [] (tableCell content alignment s).2 := by
  refine .of_count fun url => ?_
  simp only [tableCell, RenderState.due, linkUrls_append, linkUrls_linkLines, linkUrls_nil,
    List.count_append, List.count_nil]
  omega

/-- The link lines of the cells are written behind the table, if there is a table. -/
theorem settles_table {drawn : Content} {s' : RenderState} (hs : s.table.isSome)
    (h : table c s = (.ok drawn, s')) :
    Settles [] s drawn s' ∧ s'.alignments = s.alignments ∧ s'.tableLinks = [] := by
  unfold table at h
  split at h
  · rename_i hnone
    simp [hnone] at hs
  · split at h
    · cases h
    · cases h
      refine ⟨.of_count fun url => ?_, rfl, rfl⟩
      -- a blank line stands behind the link lines, if there are any
      have hlinks : linkUrls (if s.tableLinks.isEmpty then []
          else s.tableLinks ++ ofText ['\n', '\n']) = s.tableLinks.linkUrls := by
        split
        · rename_i hempty
          rw [List.isEmpty_iff.1 hempty]
        · rw [linkUrls_append, linkUrls_ofText, List.append_nil]
      simp only [linkUrls_append, hlinks, preformatted, linkUrls_ofText, RenderState.due,
        linkUrls_nil, List.count_append, List.nil_append, List.append_nil, List.count_nil]
      omega

/-- What a row leaves behind.  A header that fits its alignments begins a table. -/
structure RowDone (s : RenderState) (row : Content) (s' : RenderState) : Prop where
  content : row = []
  due : s'.due = s.due
  alignments : s'.alignments = []
  table : s'.table.isSome

/-- A header with as many cells as alignments begins a table. -/
theorem rowDone_head (h : content.count .cellEnd = s.alignments.length) :
    RowDone s (tableHead c content s).1 (tableHead c content s).2 := by
  obtain ⟨t, ht⟩ : ∃ t, startTable c (cellTexts content) s.alignments = .ok t :=
    exists_startTable (by rw [cellTexts, List.length_map, length_cells, h])
  exact ⟨rfl, rfl, rfl, by simp [tableHead, ht]⟩

/-- A row is gathered in the table that has begun. -/
theorem rowDone_row (h : s.table.isSome) :
    RowDone s (tableRow content s).1 (tableRow content s).2 :=
  ⟨rfl, rfl, rfl, by simpa [tableRow] using h⟩

/-! ## The walk -/

/-- No row of a table is being gathered, and nothing is kept for after a table. -/
structure Idle (s : RenderState) : Prop where
  alignments : s.alignments = []
  tableLinks : s.tableLinks = []

theorem Idle.of_sameTable {s' : RenderState} (h : s.SameTable s') (hs : Idle s) : Idle s' :=
  ⟨h.alignments.trans hs.alignments, h.tableLinks.trans hs.tableLinks⟩

mutual

/-- The node writes or leaves due what it asks for.  Only within a cell, where all nodes are inline,
may a row be in the making. -/
theorem settles_renderIn {tight : Bool} {level : Nat} {node : Node} {s s' : RenderState}
    {content : Content} (hshape : node.wellShaped) (hs : node.isInline ∨ Idle s)
    (h : Yields (renderIn (gemtextRenderer c) tight level node) s content s') :
    Settles (targets c node) s content s' ∧ (Idle s → Idle s') := by
  obtain ⟨kind, children⟩ := node
  obtain ⟨hfits, hchildren⟩ := everywhere_mk.1 hshape
  rw [everywhereAll_eq_all] at hchildren
  cases rendered_of_yields h with
  | leaf hleaf hcall =>
    -- what has no children leaves the state as it is
    have hstate : s' = s := by rw [← state_leafCall hleaf s, hcall]
    have hsettles := settles_leaf (s := s) hfits hleaf
    rw [hcall] at hsettles
    exact ⟨hsettles, fun hidle => hstate ▸ hidle⟩
  | @container inner between hkind hinner hcall =>
    have hopen := sameTable_openCall c s kind
    have hdue : (openCall (gemtextRenderer c) kind s).2.due = s.due := by cases kind <;> rfl
    -- inline nodes stay inline below, and nothing is gathered for a table
    have hbelow : children.all isInline ∨ Idle (openCall (gemtextRenderer c) kind s).2 := by
      refine hs.imp (fun hinline => ?_) (.of_sameTable hopen)
      rw [isInline, everywhere, Bool.and_eq_true, everywhereAll_eq_all] at hinline
      exact hinline.2
    obtain ⟨hsettles, hidle⟩ := settles_renderAll hchildren hbelow hinner
    have hclose := sameTable_closeCall c between tight kind children inner
    have hclosed := settles_closeCall c between tight hkind children inner
    rw [hcall] at hclose hclosed
    rw [targets_container hkind]
    rw [Settles, hdue] at hsettles
    exact ⟨Settles.closed hsettles hclosed,
      fun hs => .of_sameTable hclose (hidle (.of_sameTable hopen hs))⟩
  | @list shape entries between hlist hitems hcall =>
    subst hlist
    have hidle : Idle s :=
      hs.resolve_left (by simp [isInline, everywhere, Node.kind, NodeKind.isInline])
    obtain ⟨hsettles, hidle⟩ :=
      settles_renderItems hchildren (by simpa [fitsChildren] using hfits) hidle hitems
    cases hcall
    exact ⟨hsettles.congr (linkUrls_list ..), fun _ => hidle⟩
  | @table alignments rows drawn between htable hrows hcall hcontent =>
    subst htable hcontent
    have hidle : Idle s :=
      hs.resolve_left (by simp [isInline, everywhere, Node.kind, NodeKind.isInline])
    obtain ⟨hkinds, hhead⟩ := all_isRow_of_fitsChildren hfits
    obtain ⟨hsettles, hempty, hsome⟩ :=
      settles_renderRows hchildren hkinds hidle.alignments (.inr hhead) hrows
    obtain ⟨hdrawn, halignments, hlinks⟩ := settles_table hsome hcall
    have hboth := hsettles.append hdrawn
    rw [List.append_nil] at hboth
    exact ⟨hboth, fun _ => ⟨halignments.trans hempty, hlinks⟩⟩

/-- Nodes one after the other settle their targets. -/
theorem settles_renderAll {level : Nat} {nodes : List Node} {s s' : RenderState}
    {content : Content} (hshape : nodes.all wellShaped) (hs : nodes.all isInline ∨ Idle s)
    (h : Yields (renderAll (gemtextRenderer c) level nodes) s content s') :
    Settles (targetsAll c nodes) s content s' ∧ (Idle s → Idle s') := by
  cases nodes with
  | nil =>
    obtain ⟨rfl, rfl⟩ := yields_renderAll_nil.1 h
    exact ⟨.of_eq rfl rfl, id⟩
  | cons node nodes =>
    obtain ⟨first, s₁, hfirst, others, hothers, rfl⟩ := yields_renderAll_cons.1 h
    rw [List.all_cons, Bool.and_eq_true] at hshape hs
    obtain ⟨hsettles, hidle⟩ := settles_renderIn hshape.1 (hs.imp_left And.left) hfirst
    obtain ⟨hsettles', hidle'⟩ := settles_renderAll hshape.2 (hs.imp And.right hidle) hothers
    exact ⟨hsettles.append hsettles', fun hs => hidle' (hidle hs)⟩

/-- So do the items of a list. -/
theorem settles_renderItems {tight : Bool} {level : Nat} {items : List Node}
    {s s' : RenderState} {entries : List ListEntry} (hshape : items.all wellShaped)
    (hitems : items.all fun item => item.kind.isItem) (hs : Idle s)
    (h : Yields (renderItems (gemtextRenderer c) tight level items) s entries s') :
    Settles (targetsAll c items) s (entries.flatMap fun e => e.content ++ e.nested) s' ∧
      Idle s' := by
  cases items with
  | nil =>
    obtain ⟨rfl, rfl⟩ := yields_renderItems_nil.1 h
    exact ⟨.of_eq rfl rfl, hs⟩
  | cons item items =>
    obtain ⟨kind, children⟩ := item
    obtain ⟨parts, s₁, hparts, content, s₂, hcall, others, hothers, rfl⟩ :=
      yields_renderItems_cons.1 h
    rw [List.all_cons, Bool.and_eq_true] at hshape hitems
    have hchildren := (everywhere_mk.1 hshape.1).2
    rw [everywhereAll_eq_all] at hchildren
    obtain ⟨hsettles, hidle⟩ := settles_renderItemParts hchildren hs hparts
    -- the call for the item keeps the links of its content
    have hcontent := linkUrls_itemCall c s₁ kind parts.content level
    have hstate := state_itemCall c s₁ kind parts.content level
    rw [hcall] at hcontent hstate
    subst hstate
    obtain ⟨hsettles', hidle⟩ := settles_renderItems hshape.2 hitems.2 hidle hothers
    have hentry : linkUrls (content ++ parts.nested) =
        linkUrls (parts.content ++ parts.nested) := by
      rw [linkUrls_append, linkUrls_append, hcontent]
    have hitem : kind.isItem := hitems.1
    rw [targetsAll, targets_item hitem, List.flatMap_cons]
    exact ⟨(hsettles.congr hentry).append hsettles', hidle⟩

/-- So do the children of an item. -/
theorem settles_renderItemParts {tight : Bool} {level : Nat} {nodes : List Node}
    {s s' : RenderState} {parts : ListEntry} (hshape : nodes.all wellShaped) (hs : Idle s)
    (h : Yields (renderItemParts (gemtextRenderer c) tight level nodes) s parts s') :
    Settles (targetsAll c nodes) s (parts.content ++ parts.nested) s' ∧ Idle s' := by
  cases nodes with
  | nil =>
    obtain ⟨rfl, rfl⟩ := yields_renderItemParts_nil.1 h
    exact ⟨.of_eq rfl rfl, hs⟩
  | cons node nodes =>
    obtain ⟨content, s₁, hcontent, others, hothers, rfl⟩ := yields_renderItemParts_cons.1 h
    rw [List.all_cons, Bool.and_eq_true] at hshape
    obtain ⟨hsettles, hidle⟩ := settles_renderIn hshape.1 (.inr hs) hcontent
    obtain ⟨hsettles', hidle'⟩ := settles_renderItemParts hshape.2 (hidle hs) hothers
    -- the part of a nested list comes behind the parts of all others
    refine ⟨Settles.of_count fun url => ?_, hidle'⟩
    have hboth := (hsettles.append hsettles').count url
    rw [targetsAll, ← hboth, addPart]
    split <;> simp only [linkUrls_append, List.count_append] <;> omega

/-- So do the rows of a table, whose link lines are kept for after it. -/
theorem settles_renderRows {alignments : List Alignment} {level : Nat} {rows : List Node}
    {s s' : RenderState} {content : Content} (hshape : rows.all wellShaped)
    (hrows : rows.all fun row => row.kind.isRow) (hs : s.alignments = [])
    (hopen : s.table.isSome ∨ rows.head?.any fun row => row.kind = .tableRow true)
    (h : Yields (renderRows (gemtextRenderer c) alignments level rows) s content s') :
    Settles (targetsAll c rows) s content s' ∧ s'.alignments = [] ∧ s'.table.isSome := by
  cases rows with
  | nil =>
    obtain ⟨rfl, rfl⟩ := yields_renderRows_nil.1 h
    exact ⟨.of_eq rfl rfl, hs, hopen.resolve_right (by simp)⟩
  | cons row rows =>
    obtain ⟨kind, children⟩ := row
    obtain ⟨cells, s₁, hcells, row, s₂, hcall, others, hothers, rfl⟩ := yields_renderRows_cons.1 h
    rw [List.all_cons, Bool.and_eq_true] at hshape hrows
    obtain ⟨hfits, hchildren⟩ := everywhere_mk.1 hshape.1
    rw [everywhereAll_eq_all] at hchildren
    obtain ⟨header, rfl⟩ := NodeKind.exists_eq_tableRow hrows.1
    obtain ⟨hsettles, htable, hlength⟩ :=
      settles_renderCells hchildren (by simpa [fitsChildren] using hfits) hcells
    rw [hs, List.length_nil, Nat.zero_add] at hlength
    -- the header begins the table, and the other rows need one
    have hdone : RowDone s₁ row s₂ := by
      cases header with
      | true =>
        have hhead := rowDone_head (c := c) hlength.symm
        rwa [show tableHead c cells s₁ = (row, s₂) from hcall] at hhead
      | false =>
        have hsome : s.table.isSome := hopen.resolve_right (by simp [Node.kind])
        have hrow : RowDone s₁ (tableRow cells s₁).1 (tableRow cells s₁).2 :=
          rowDone_row (by rwa [htable])
        rwa [show tableRow cells s₁ = (row, s₂) from hcall] at hrow
    obtain ⟨hsettles', hempty, hsome⟩ :=
      settles_renderRows hshape.2 hrows.2 hdone.alignments (.inl hdone.table) hothers
    have hrow : Settles (targets c (.mk (.tableRow header) children)) s row s₂ := by
      rw [hdone.content, Settles, hdone.due]
      exact hsettles
    exact ⟨hrow.append hsettles', hempty, hsome⟩

/-- The cells of a row write nothing themselves.  There is an alignment for each of them. -/
theorem settles_renderCells {isHead : Bool} {alignments : List Alignment} {level : Nat}
    {cells : List Node} {s s' : RenderState} {content : Content} (hshape : cells.all wellShaped)
    (hcells : cells.all fun cell => cell.kind = .tableCell)
    (h : Yields (renderCells (gemtextRenderer c) isHead alignments level cells) s content s') :
    Settles (targetsAll c cells) s [] s' ∧ s'.table = s.table ∧
      s'.alignments.length = s.alignments.length + content.count .cellEnd := by
  cases cells with
  | nil =>
    obtain ⟨rfl, rfl⟩ := yields_renderCells_nil.1 h
    exact ⟨.of_eq rfl rfl, rfl, rfl⟩
  | cons cell cells =>
    obtain ⟨kind, children⟩ := cell
    obtain ⟨inner, s₁, hinner, cell, s₂, hcall, others, hothers, rfl⟩ :=
      yields_renderCells_cons.1 h
    rw [List.all_cons, Bool.and_eq_true, decide_eq_true_eq] at hcells
    rw [List.all_cons, Bool.and_eq_true] at hshape
    obtain ⟨hfits, hchildren⟩ := everywhere_mk.1 hshape.1
    rw [everywhereAll_eq_all] at hchildren
    obtain rfl : kind = .tableCell := hcells.1
    have hinline : children.all isInline := by simpa [fitsChildren] using hfits
    obtain ⟨hsettles, -⟩ := settles_renderAll hchildren (.inl hinline) hinner
    have hsame := sameTable_renderAll hinline hinner
    obtain ⟨hsettles', htable, hlength⟩ := settles_renderCells hshape.2 hcells.2 hothers
    -- the links of the cell are kept in the state, and it adds an alignment and a cell end
    have hcell := settles_tableCell s₁ inner (alignments.headD .left)
    have hkept : Settles ([] ++ targetsAll c children) s [] _ := hsettles.closed hcell
    have hends : (ofText inner.visibleText.trim).count .cellEnd = 0 :=
      List.count_eq_zero.2 (by simp [ofText])
    cases hcall
    refine ⟨hkept.append hsettles', htable.trans hsame.table, ?_⟩
    rw [hlength, List.count_append, List.count_append, hends, List.length_append, hsame.alignments,
      List.length_singleton, List.count_singleton_self]
    omega

end

/-! ## Modes without footnotes -/

/-- Where footnotes do not follow their paragraph, it is a region and nothing else. -/
theorem paragraph_eq (hscoped : ¬c.links.isParagraphScoped) (content : Content)
    (s : RenderState) : paragraph c content s = (paragraphRegion content, s) := by
  have hsingle (text : Text) : isSingleLink c s.footnotes text = false := by
    unfold isSingleLink
    cases hlinks : c.links <;> simp_all [LinkMode.isParagraphScoped] <;> split <;> rfl
  simp [paragraph, hsingle, hscoped]

/-- Without footnotes, a heading is its line. -/
theorem heading_eq (hscoped : ¬c.links.isParagraphScoped) (content : Content) (level : Nat)
    (s : RenderState) : heading c content level s = (headingLine content level, s) := by
  simp [heading, hscoped]

section

variable (hmode : ¬c.links.usesFootnotes)
include hmode

/-- Without footnotes there are none to follow a paragraph. -/
theorem not_isParagraphScoped : ¬c.links.isParagraphScoped := by
  cases hlinks : c.links <;> simp_all [LinkMode.usesFootnotes, LinkMode.isParagraphScoped]

/-- No call that closes over contents changes the state. -/
theorem state_closeCall (s : RenderState) (tight : Bool) (kind : NodeKind) (children : List Node)
    (content : Content) : (closeCall (gemtextRenderer c) tight kind children content s).2 = s := by
  cases kind with
  | paragraph =>
    cases tight with
    | true => rfl
    | false => exact congrArg Prod.snd (paragraph_eq (not_isParagraphScoped hmode) content s)
  | heading depth =>
    exact congrArg Prod.snd (heading_eq (not_isParagraphScoped hmode) content depth s)
  | link url =>
    -- only a link could leave a footnote, and in these modes none does
    show (link c url content (innerTexts children) s).2 = s
    simp only [link, hmode]
    split <;> rfl
  | _ => rfl

end

/-- So there never are footnotes, and none waits when a heading begins. -/
theorem keeps_noFootnotes (hmode : ¬c.links.usesFootnotes) :
    (gemtextRenderer c).Keeps (fun _ => true)
      (fun s => s.footnotes = .empty ∧ s.headingMark = 0) (fun _ => True) where
  nil := trivial
  append _ _ := trivial
  leaf _ hcall hs := ⟨trivial, by rwa [state_leafCall hcall]⟩
  opening kind _ hs := by
    -- a heading marks how many footnotes wait, and none do
    cases kind with
    | heading depth => exact ⟨hs.1, congrArg (·.pending.length) hs.1⟩
    | _ => exact hs
  closing tight kind children content s _ _ hs :=
    ⟨trivial, by rwa [state_closeCall hmode s tight kind children content]⟩
  item kind level _ _ _ hs := ⟨trivial, by rwa [state_itemCall]⟩
  list _ _ _ _ _ _ hs := ⟨trivial, hs⟩
  cell _ _ _ _ _ hs := hs
  row kind cells s hs := by
    unfold rowCall
    split <;> exact ⟨trivial, hs⟩
  table {_ _ s drawn s'} _ hs h := by
    have hstate := state_table c s
    rw [show table c s = (.ok drawn, s') from h] at hstate
    refine ⟨trivial, ?_⟩
    rw [show s' = _ from hstate]
    exact hs

end Render

open Content Markdown Render in
/-- A tree of the shape that a reader of Markdown builds, rendered without error: the link lines of
the document have just the targets that its links and images ask for, each as often as it is asked
for, and without links there is none. -/
theorem linkUrls_renderTree_perm {c : Conversion} {level : Nat} {tree : Node} {r : Rendition}
    (hshape : tree.wellShaped) (h : renderTree c level tree = .ok r) :
    (linkUrls (r.body ++ r.trailing)).Perm (tree.targets c) ∧
      (c.links = .off → linkUrls (r.body ++ r.trailing) = []) := by
  obtain ⟨s, hbody, htrailing, -⟩ := renderTree_eq_ok.1 h
  have hidle : Idle RenderState.initial := ⟨rfl, rfl⟩
  obtain ⟨hsettles, hdone⟩ := settles_renderIn hshape (.inr hidle) hbody
  -- at the end only footnotes are due, and they are written behind the document
  have hfinish : linkUrls r.trailing = s.due := by
    rw [htrailing, RenderState.due, (hdone hidle).tableLinks, linkUrls_nil, List.append_nil]
    show linkUrls (flushFootnotes c s.footnotes.pending.length s).1 = _
    by_cases hmode : c.links.usesFootnotes
    · rw [flushFootnotes, if_pos hmode, linkUrls_footnoteLines, Footnotes.oldest, List.take_length]
    · have htrue := Node.everywhere_true tree
      obtain ⟨-, hnone, -⟩ := (keeps_noFootnotes hmode).of_renderIn htrue ⟨rfl, rfl⟩ hbody
      rw [flushFootnotes, if_neg hmode, hnone]
      rfl
  have hperm : (linkUrls (r.body ++ r.trailing)).Perm (tree.targets c) := by
    have hnothing : RenderState.initial.due = [] := rfl
    rw [Settles, hnothing, List.append_nil] at hsettles
    rwa [linkUrls_append, hfinish]
  refine ⟨hperm, fun hoff => ?_⟩
  rw [Node.targets_of_off hoff] at hperm
  exact List.perm_nil.1 hperm

open Content Markdown Render in
/-- The link of a cell is handed out behind the table, with the image inside it; a link within the
document is not. -/
theorem linkUrls_renderTree_perm_table :
    let c := { Conversion.standard with links := .paragraph }
    let image := Node.mk (.image ['v']) [.mk (.text ['i']) []]
    let cell := Node.mk .tableCell [.mk (.link ['u']) [image], .mk (.link ['#', 'a']) []]
    let tree := Node.mk .document [.mk (.table [.none]) [.mk (.tableRow true) [cell]]]
    tree.wellShaped ∧ tree.targets c = [['u'], ['v']] ∧
      ∃ r, renderTree c 0 tree = .ok r ∧
        (linkUrls (r.body ++ r.trailing)).Perm (tree.targets c) ∧
          (c.links = .off → linkUrls (r.body ++ r.trailing) = []) := by
  intro c image cell tree
  -- the image stands in the label of a link, and both targets are kept for after the table
  have hshape : tree.wellShaped := by decide
  have hok : (renderTree c 0 tree).isOk := by decide +kernel
  obtain ⟨r, hr⟩ : ∃ r, renderTree c 0 tree = .ok r := by
    cases h : renderTree c 0 tree with
    | error cause =>
      rw [h] at hok
      cases hok
    | ok r => exact ⟨r, rfl⟩
  exact ⟨hshape, by decide, r, hr, linkUrls_renderTree_perm hshape hr⟩

end Gemtext
