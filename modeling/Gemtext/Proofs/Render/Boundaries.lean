import Gemtext.Standard.Library
import Gemtext.Proofs.Render.Frame
import Gemtext.Proofs.Render.Invariant
import Gemtext.Proofs.Render.Marks
import Mathlib.Algebra.Ring.Parity

/-!
# Paragraph boundaries pair up

The layout opens a paragraph region at one boundary and closes it at the next, so one boundary too
many would turn the rest of a document inside out.  Every call of the renderer keeps its content
`Paired`, whatever the tree looks like, so a rendered block leaves the layout as it found it and
is laid out by itself (`paired_rendered`).
-/

namespace Gemtext

namespace Atom

/-- Whether the atom begins or ends a part of the content. -/
def isDelimiter : Atom → Bool
  | boundary | cellEnd => true
  | _ => false

end Atom

namespace Content

/-- Whether the layout is inside a paragraph region after the content, given whether it is inside
one before. -/
def insideAfter (inside : Bool) (c : Content) : Bool :=
  c.foldl (fun inside atom => if atom = .boundary then !inside else inside) inside

/-- Every boundary leads in or out of a region. -/
theorem insideAfter_eq_iterate (inside : Bool) (c : Content) :
    insideAfter inside c = not^[c.count .boundary] inside := by
  induction c generalizing inside with
  | nil => rfl
  | cons atom rest ih =>
    rw [insideAfter, List.foldl_cons, ← insideAfter, ih, List.count_cons]
    by_cases h : atom = .boundary <;> simp [h]

/-! ## Regions of two contents in a row -/

/-- Regions are joined in two parts, and each of the first ones leads in or out. -/
theorem joinRegions_append (inside : Bool) (pieces others : List Content) :
    joinRegions inside (pieces ++ others) =
      joinRegions inside pieces ++ joinRegions (not^[pieces.length] inside) others := by
  induction pieces generalizing inside with
  | nil => rfl
  | cons piece pieces ih => simp [joinRegions, ih]

/-- A content whose boundaries pair up is laid out by itself, whatever follows. -/
theorem layoutParagraphs_append {c : Content} (h : Even (c.count .boundary)) (rest : Content) :
    (c ++ rest).layoutParagraphs = c.layoutParagraphs ++ rest.layoutParagraphs := by
  obtain ⟨pieces, last, first, others, hc, hrest, happend, hlength⟩ :=
    List.exists_splitOn_append .boundary c rest
  have houtside : not^[pieces.length] false = false := by
    rw [hlength, Bool.involutive_not.iterate_even h, id]
  simp [layoutParagraphs, splitOn_eq_list, hc, hrest, happend, joinRegions_append, houtside,
    joinRegions]

/-- A region is laid out trimmed and on one line, and a blank line ends it. -/
theorem layoutParagraphs_paragraphRegion {c : Content} (h : .boundary ∉ c) :
    (Render.paragraphRegion c).layoutParagraphs =
      c.trim.newlinesToSpaces ++ ofText ['\n', '\n'] := by
  have hsplit : splitOn .boundary (Render.paragraphRegion c) = [[], c, []] := by
    rw [Render.paragraphRegion, List.cons_append, splitOn, if_pos rfl, splitOn_eq_list,
      List.splitOn_append_cons_self, List.splitOn_eq_singleton h]
    rfl
  rw [layoutParagraphs, hsplit]
  exact List.append_nil _

/-! ## Paired contents -/

/-- The boundaries of the content pair up, and it is no row of cells. -/
structure Paired (c : Content) : Prop where
  even : Even (c.count .boundary)
  noCell : .cellEnd ∉ c

namespace Paired

variable {c d : Content}

/-- Only boundaries and cell ends matter. -/
theorem congr (h : c.filter Atom.isDelimiter = d.filter Atom.isDelimiter) (hd : Paired d) :
    Paired c where
  even := by
    rw [← List.count_filter (p := Atom.isDelimiter) rfl, h, List.count_filter rfl]
    exact hd.even
  noCell hc := by
    have hcell : .cellEnd ∈ c.filter Atom.isDelimiter := List.mem_filter.2 ⟨hc, rfl⟩
    rw [h] at hcell
    exact hd.noCell (List.mem_filter.1 hcell).1

theorem nil : Paired [] := ⟨⟨0, rfl⟩, by simp⟩

theorem append (hc : Paired c) (hd : Paired d) : Paired (c ++ d) where
  even := by
    rw [List.count_append]
    exact hc.even.add hd.even
  noCell := by simp [hc.noCell, hd.noCell]

/-- Without delimiters there is nothing to pair. -/
theorem of_filter_eq_nil (h : c.filter Atom.isDelimiter = []) : Paired c :=
  congr (h.trans List.filter_nil.symm) nil

theorem ofText (s : Text) : Paired (Content.ofText s) :=
  of_filter_eq_nil (filter_ofText (fun _ => rfl) s)

theorem of_isLink (h : ∀ atom ∈ c, atom.isLink) : Paired c := by
  refine of_filter_eq_nil (List.filter_eq_nil_iff.2 fun atom hatom hdelimiter => ?_)
  have hlink := h atom hatom
  cases atom <;> simp_all [Atom.isLink, Atom.isDelimiter]

theorem linkLines (c : Content) : Paired c.linkLines :=
  of_isLink fun _ hatom => (List.mem_filter.1 hatom).2

/-- Flattening turns boundaries into newlines. -/
theorem flattenBlocks (hc : Paired c) : Paired c.flattenBlocks := by
  refine of_filter_eq_nil ?_
  rw [filter_flattenBlocks fun _ => rfl, List.filter_eq_nil_iff]
  intro atom hatom hdelimiter
  cases atom with
  | cellEnd => exact hc.noCell hatom
  | _ => simp [Atom.isDelimiter] at hdelimiter

/-- A paragraph has its two boundaries around it. -/
theorem paragraphRegion (hc : Paired c) : Paired (Render.paragraphRegion c) where
  even := by
    simp only [Render.paragraphRegion, List.cons_append, List.count_cons, List.count_append,
      List.count_nil, beq_self_eq_true, if_true, Nat.zero_add, Nat.add_assoc]
    exact hc.even.add ⟨1, rfl⟩
  noCell := by simp [Render.paragraphRegion, hc.noCell]

end Paired

end Content

/-! ## What the calls answer -/

namespace Render

open Content Markdown Node

variable {c : Conversion} {content : Content} {s : RenderState}

/-- Only link lines are kept for after the table. -/
def TableLinksOnly (s : RenderState) : Prop :=
  ∀ atom ∈ s.tableLinks, atom.isLink

/-- What leaves the table alone keeps its links. -/
theorem TableLinksOnly.of_sameTable {s' : RenderState} (h : s.SameTable s')
    (hs : TableLinksOnly s) : TableLinksOnly s' := by
  rwa [TableLinksOnly, h.tableLinks]

/-- Footnotes are handed out as link lines. -/
theorem isLink_of_mem_flushFootnotes {limit : Nat} {atom : Atom}
    (h : atom ∈ (flushFootnotes c limit s).1) : atom.isLink := by
  unfold flushFootnotes at h
  split at h
  · obtain ⟨_, -, rfl⟩ := List.mem_map.1 h
    rfl
  · exact absurd h List.not_mem_nil

section

variable {P : Content → Prop} (happend : ∀ {d e : Content}, P d → P e → P (d ++ e))
  (hlinks : ∀ {links : Content}, (∀ atom ∈ links, atom.isLink) → P (paragraphRegion links))

include happend hlinks

/-- What a paragraph shows is made of regions: one of its content, and one of the footnotes behind
it, or else one of link lines in their place. -/
theorem paragraph_of_regions (hcontent : P (paragraphRegion content)) :
    P (paragraph c content s).1 := by
  unfold paragraph
  dsimp only
  split
  · -- the line of a withdrawn footnote takes the place of the content
    exact hlinks (by simp [Atom.isLink, Content.linkLines])
  · split
    · exact happend hcontent (hlinks fun _ => isLink_of_mem_flushFootnotes)
    · exact hcontent

/-- What a heading shows is its line, and before it a region of the footnotes that waited. -/
theorem heading_of_regions (level : Nat) (hline : P (headingLine content level)) :
    P (heading c content level s).1 := by
  unfold heading
  split
  · exact happend (hlinks fun _ => isLink_of_mem_flushFootnotes) hline
  · exact hline

end

/-- A link shows its label or its content, with link lines behind it. -/
theorem paired_link (url inner : Text) (hc : Paired content) :
    Paired (link c url content inner s).1 := by
  have hlinks := Paired.linkLines content
  unfold link
  dsimp only
  -- in the mode without links the content or the target is shown
  split
  · -- the link leads nowhere, and its content or its target is shown
    dsimp only
    split
    · exact Paired.ofText _
    · exact hc
  · split
    · exact (Paired.ofText _).append hlinks
    · exact (Paired.of_filter_eq_nil (c := [.link _]) rfl).append hlinks

/-- A paragraph is a region, and its footnotes another one. -/
theorem paired_paragraph (hc : Paired content) : Paired (paragraph c content s).1 :=
  paragraph_of_regions .append (fun hlinks => (Paired.of_isLink hlinks).paragraphRegion)
    hc.paragraphRegion

/-- A heading is a line, with its footnotes in a region before it. -/
theorem paired_heading (level : Nat) (hc : Paired content) :
    Paired (heading c content level s).1 := by
  have hline : Paired (headingLine content level) := hc.congr (filter_headingLine (fun _ => rfl) ..)
  exact heading_of_regions .append (fun hlinks => (Paired.of_isLink hlinks).paragraphRegion) level
    hline

/-- What has no children is text, or a block of lines of its own. -/
theorem paired_leaf {kind : NodeKind} {children : List Node} {call : StateM RenderState Content}
    (h : leafCall? (gemtextRenderer c) kind children = some call) : Paired (call s).1 := by
  cases kind <;> cases h
  case frontMatter => exact Paired.nil
  case softBreak => exact Paired.ofText ['\n']
  case lineBreak => exact Paired.of_filter_eq_nil rfl
  case htmlBlock html =>
    show Paired (Render.htmlBlock c html)
    unfold Render.htmlBlock
    split <;> exact Paired.ofText _
  case htmlInline html =>
    show Paired (Render.htmlInline c html)
    unfold Render.htmlInline
    split
    · exact Paired.nil
    · exact Paired.ofText _
  case image url =>
    show Paired (Render.image c url _)
    unfold Render.image
    dsimp only
    split
    · exact Paired.ofText _
    · exact Paired.of_filter_eq_nil rfl
  -- all other leaves are text
  all_goals exact Paired.ofText _

theorem paired_close (tight : Bool) (kind : NodeKind) (children : List Node)
    (hc : Paired content) :
    Paired (closeCall (gemtextRenderer c) tight kind children content s).1 := by
  have hmarked (marker : Text) : Paired (marked c marker content) :=
    hc.congr (filter_marked (fun _ => rfl) ..)
  cases kind with
  | paragraph =>
    -- in a tight list there are no regions
    cases tight with
    | true => exact hc.append (Paired.ofText ['\n'])
    | false => exact paired_paragraph hc
  | heading depth => exact paired_heading depth hc
  | blockQuote =>
    exact hc.flattenBlocks.paragraphRegion.congr (filter_blockQuote (fun _ => rfl) rfl content)
  | emphasis => exact hmarked _
  | strong => exact hmarked _
  | link url => exact paired_link url _ hc
  | _ => exact hc

/-- The box of an item is text. -/
theorem paired_item (kind : NodeKind) (level : Nat) (hc : Paired content) :
    Paired (itemCall (gemtextRenderer c) kind content level s).1 := by
  have hitem : Paired (listItem content) :=
    hc.flattenBlocks.congr (filter_listItem (fun _ => rfl) content)
  have htask (checked : Bool) : Paired (taskListItem c content checked) :=
    hc.flattenBlocks.congr (filter_taskListItem (fun _ => rfl) c content checked)
  cases kind with
  | taskItem symbol => exact htask _
  | _ => exact hitem

/-- The lines of a list have the boundaries of its items. -/
theorem paired_list (ordered : Bool) (level start : Nat) {entries : List ListEntry}
    (h : ∀ e ∈ entries, Paired e.content ∧ Paired e.nested) :
    Paired (list c entries ordered level start) := by
  have hentries : Paired (entries.flatMap fun e => e.content ++ e.nested) := by
    induction entries with
    | nil => exact Paired.nil
    | cons e entries ih =>
      obtain ⟨⟨hcontent, hnested⟩, hrest⟩ := List.forall_mem_cons.1 h
      exact (hcontent.append hnested).append (ih hrest)
  refine hentries.congr ?_
  rw [filter_list fun _ => rfl, List.filter_flatMap]
  simp only [List.filter_append]

/-- A drawn table is text, with its link lines behind it. -/
theorem paired_table {drawn : Content} {s' : RenderState} (hs : TableLinksOnly s)
    (h : table c s = (.ok drawn, s')) : Paired drawn ∧ s'.tableLinks = [] := by
  unfold table at h
  split at h
  · cases h
    exact ⟨Paired.nil, rfl⟩
  · split at h
    · cases h
    · cases h
      refine ⟨(Paired.ofText _).append ?_, rfl⟩
      split
      · exact Paired.nil
      · exact (Paired.of_isLink hs).append (Paired.ofText _)

/-- Every call of the renderer keeps the boundaries paired. -/
theorem keeps_paired (c : Conversion) :
    (gemtextRenderer c).Keeps (fun _ => true) TableLinksOnly Paired where
  nil := Paired.nil
  append := Paired.append
  leaf _ hcall hs := ⟨paired_leaf hcall, by rwa [state_leafCall hcall]⟩
  opening kind _ hs := .of_sameTable (sameTable_openCall c _ kind) hs
  closing tight kind children content _ _ hc hs :=
    ⟨paired_close tight kind children hc,
      .of_sameTable (sameTable_closeCall c _ tight kind children content) hs⟩
  item kind level _ _ hc hs := ⟨paired_item kind level hc, by rwa [state_itemCall]⟩
  list ordered level start _ _ h hs := ⟨paired_list ordered level start h, hs⟩
  cell _ _ _ _ _ hs := by
    -- a cell keeps its link lines for after the table
    intro atom hatom
    rcases List.mem_append.1 hatom with hatom | hatom
    · exact hs atom hatom
    · exact (List.mem_filter.1 hatom).2
  row kind cells s hs := by
    unfold rowCall
    split <;> exact ⟨Paired.nil, hs⟩
  table _ hs h := (paired_table hs h).imp_right fun hlinks => by simp [TableLinksOnly, hlinks]

end Render

open Content Markdown in
/-- Whatever tree is rendered, and from whatever state in which only link lines are kept for after
a table: the boundaries of the content pair up and it ends no cell.  So the layout is inside a
paragraph region after it just if it was before, and what follows is laid out by itself. -/
theorem paired_rendered {c : Conversion} {level : Nat} {tree : Node} {s s' : RenderState}
    {content : Content} (hs : ∀ atom ∈ s.tableLinks, atom.isLink)
    (h : (tree.render (gemtextRenderer c) level).run s = (.ok content, s')) :
    Even (content.count .boundary) ∧ .cellEnd ∉ content ∧
      (∀ inside, content.insideAfter inside = inside) ∧
      ∀ rest, (content ++ rest).layoutParagraphs =
        content.layoutParagraphs ++ rest.layoutParagraphs := by
  have hp : Node.everywhere (fun _ => true) tree := Node.everywhere_true tree
  obtain ⟨hpaired, -⟩ := (Render.keeps_paired c).of_renderIn hp hs h
  refine ⟨hpaired.even, hpaired.noCell, fun inside => ?_, layoutParagraphs_append hpaired.even⟩
  rw [insideAfter_eq_iterate, Bool.involutive_not.iterate_even hpaired.even, id]

open Content Markdown Render in
/-- A heading hands out the footnote that waited before it in a region of its own. -/
theorem paired_rendered_heading :
    let c := { Conversion.standard with links := .paragraph }
    let note : Footnote := ⟨['u'], ['x']⟩
    let s : RenderState :=
      { RenderState.initial with footnotes := ⟨1, [note]⟩, tableLinks := [.link ⟨['v'], none⟩] }
    let tree := Node.mk (.heading 1) [.mk (.text ['a']) []]
    let content := paragraphRegion [.link (numberedLine 1 note)] ++ ofText "# a\n\n".toList
    (∀ atom ∈ s.tableLinks, atom.isLink) ∧
      (tree.render (gemtextRenderer c) 0).run s =
        (.ok content, { s with footnotes := ⟨1, []⟩ }) ∧
      Even (content.count .boundary) ∧ .cellEnd ∉ content ∧
        (∀ inside, content.insideAfter inside = inside) ∧
        ∀ rest, (content ++ rest).layoutParagraphs =
          content.layoutParagraphs ++ rest.layoutParagraphs := by
  intro c note s tree content
  have hs : ∀ atom ∈ s.tableLinks, atom.isLink := by decide
  have hrun : (tree.render (gemtextRenderer c) 0).run s =
      (.ok content, { s with footnotes := ⟨1, []⟩ }) := rfl
  exact ⟨hs, hrun, paired_rendered hs hrun⟩

end Gemtext
