import Gemtext.Standard.Library
import Gemtext.Proofs.Layout.LinkLines
import Gemtext.Proofs.Render.ClosedSpans
import Gemtext.Proofs.Render.Tables

/-!
# Fences come in pairs

Only code, HTML and tables are rendered between fences.  Inside a list item or a quotation they are
not: there every line begins with the marker of the item or of the quotation, and a fence in the
middle of a line is text.  So every block of a document `LaysFences`, and the document has an even
number of fences (`even_fences_renderTree`), unless a fence stands behind a link line in a list
item: isolating the link line begins a line there (`odd_fences_item`).
-/

namespace Gemtext

open Text Layout

namespace Render

open Content Markdown Node

variable {c : Conversion} {content : Content} {s : RenderState}

/-! ## Paragraphs and headings -/

/-- A paragraph seems no fence, since its backticks belong to code. -/
theorem laysFences_paragraph (hcontent : SpannedLine content) :
    LaysFences (paragraph c content s).1 :=
  paragraph_of_regions .append
    (fun hlinks => (SpannedLine.of_isLink hlinks).laysFences_paragraphRegion)
    hcontent.laysFences_paragraphRegion

/-- A heading begins with a number sign. -/
theorem laysFences_heading (level : Nat) (hcontent : SpannedLine content) :
    LaysFences (heading c content level s).1 := by
  have hline : LaysFences (headingLine content level) := by
    have hmark : '`' ∉ List.replicate level '#' ++ [' '] := by simp
    have hfront : SpannedLine (ofText (List.replicate level '#' ++ [' '])) :=
      .ofText (.of_not_mem hmark)
    exact (hfront.append hcontent.trim).laysFences_append_blankLine
  exact heading_of_regions .append
    (fun hlinks => (SpannedLine.of_isLink hlinks).laysFences_paragraphRegion) level hline

/-- A rule is a line of dashes. -/
theorem laysFences_thematicBreak : LaysFences thematicBreak := by
  have hdashes : SpannedLine (ofText (List.replicate 80 '-')) := .ofText (.of_not_mem (by simp))
  have hlaid := hdashes.laysFences_append_blankLine
  rwa [thematicBreak, ofText, List.map_append, ← ofText, ← ofText]

/-! ## Preformatted lines -/

/-- A block between fences, none of whose lines seems a fence. -/
theorem laysFences_preformatted {tag body : Text} (htag : '\n' ∉ tag)
    (hbody : ∀ line ∈ Text.splitOn '\n' body, seemsFence line = false) :
    LaysFences (preformatted tag body) := by
  let lines := (codeFence ++ tag) :: (Text.splitOn '\n' body ++ [codeFence, []])
  have hfence : isFence (codeFence ++ tag) := isFence_append (show isFence codeFence from rfl) tag
  refine .of_unbroken (filter_ofText (fun _ => rfl) _) (fenced_ofText lines ?_ ?_ ?_)
  · -- the fences stand on lines of their own, with the lines of the body between them
    have hopen : '\n' ∉ codeFence ++ tag := by simp [codeFence, htag]
    have hshape : codeFence ++ tag ++ '\n' :: body ++ '\n' :: codeFence ++ ['\n', '\n'] =
        (codeFence ++ tag) ++ '\n' :: (body ++ '\n' :: (codeFence ++ ['\n', '\n'])) := by simp
    rw [hshape, Text.splitOn_piece_cons hopen, Text.splitOn_append_cons]
    simp only [lines, List.cons_append, List.append_assoc]
    rfl
  · -- only the two fences seem to be fences
    intro line hline hseems
    rcases List.mem_cons.1 hline with rfl | hline
    · exact hfence
    · rcases List.mem_append.1 hline with hline | hline
      · rw [hbody line hline] at hseems
        cases hseems
      · simp only [List.mem_cons, List.not_mem_nil, or_false] at hline
        rcases hline with rfl | rfl
        · rfl
        · cases hseems
  · -- the two fences are a pair
    have hnone : (Text.splitOn '\n' body).countP isFence = 0 :=
      List.countP_eq_zero.2 fun line hline => by simp [isFence_eq_false (hbody line hline)]
    rw [List.countP_cons_of_pos hfence, List.countP_append, hnone]
    decide

/-- Dropping a newline puts nothing in. -/
theorem mem_of_mem_dropFinalNewline {code : Text} {x : Char} (h : x ∈ dropFinalNewline code) :
    x ∈ code := by
  unfold dropFinalNewline Text.dropEnd? at h
  split at h
  · exact List.mem_of_mem_take h
  · exact h

/-- A code block without backticks stands between its fences. -/
theorem laysFences_codeBlock (hc : c.Plain) {code : Text} {info : Option Text} (hcode : '`' ∉ code)
    (hinfo : ∀ text, info = some text → '\n' ∉ text) : LaysFences (codeBlock c code info) := by
  refine laysFences_preformatted ?_ fun line hline => seemsFence_of_not_mem fun hmem => ?_
  · cases htag : (info.map Text.trim).filter (!·.isEmpty) with
    | none => exact (isPlain_iff.1 hc.codeTag).2
    | some tag =>
      obtain ⟨hmap, -⟩ := Option.filter_eq_some_iff.1 htag
      obtain ⟨text, htext, rfl⟩ := Option.map_eq_some_iff.1 hmap
      exact fun hn => hinfo text htext (mem_of_mem_trim hn)
  · have hbody := (Text.mem_and_ne_of_mem_splitOn hline hmem).1
    exact hcode (mem_of_mem_dropFinalNewline (mem_of_mem_dropFinalNewline hbody))

/-- So does raw markup. -/
theorem laysFences_htmlBlock (hc : c.Plain) {html : Text} (hhtml : '`' ∉ html) :
    LaysFences (Render.htmlBlock c html) := by
  unfold Render.htmlBlock
  split
  · exact .of_unbroken rfl (fenced_of_endsLines (EndsLines.append_newline []) Fenceless.nil)
  · refine laysFences_codeBlock hc hhtml fun text htext => ?_
    rw [← Option.some.inj htext]
    decide

/-- A table is drawn in lines that begin with visible glyphs, and the link lines of its cells stand
on a line behind it. -/
theorem laysFences_table (hc : c.Plain) (hs : s.FramedTable) (hlinks : TableLinksOnly s)
    {drawn : Content} {s' : RenderState} (h : table c s = (.ok drawn, s')) : LaysFences drawn := by
  rcases table_eq_ok hs h with rfl | ⟨text, rfl, hlines⟩
  · exact .nil
  · refine LaysFences.append (laysFences_preformatted (isPlain_iff.1 hc.tableTag).2
      fun line hline => ?_) ?_
    · rcases hlines line hline with rfl | ⟨x, rest, rfl, hvisible, hne⟩
      · rfl
      · exact seemsFence_visible_cons hvisible hne rest
    · split
      · exact .nil
      · exact (SpannedLine.of_isLink hlinks).laysFences_append_blankLine

/-! ## Quotations -/

/-- Every line of a quotation begins with its marker, or it is a link line. -/
theorem seemsFence_quoteLine (line : Content) : seemsFence (lead (quoteLine line)) = false := by
  unfold quoteLine
  split
  · rfl
  · rw [lead_link]
    rfl
  · rw [lead_char (by decide)]
    exact seemsFence_visible_cons (by decide) (by decide) _

/-- The lines of a quotation, marked. -/
def quotedLines (content : Content) : List Content :=
  (squeezeEmpty false (content.flattenBlocks.trim.lines.map Content.trim)).map quoteLine

/-- The lines of a quotation are lines. -/
theorem newline_not_mem_quotedLines {line : Content} (h : line ∈ quotedLines content) :
    .char '\n' ∉ line := by
  obtain ⟨bare, hbare, rfl⟩ := List.mem_map.1 h
  obtain ⟨source, hsource, rfl⟩ := List.mem_map.1 (mem_of_mem_squeezeEmpty hbare)
  have hnot : .char '\n' ∉ source.trim := fun hn =>
    newline_not_mem_of_mem_lines hsource (mem_of_mem_trim hn)
  unfold quoteLine
  split
  · decide
  · exact hnot
  · simp [hnot]

/-- A quotation is flattened before its lines are marked. -/
theorem filter_isBreak_quotedLines {line : Content} (h : line ∈ quotedLines content) :
    line.filter Atom.isBreak = [] := by
  obtain ⟨bare, hbare, rfl⟩ := List.mem_map.1 h
  obtain ⟨source, hsource, rfl⟩ := List.mem_map.1 (mem_of_mem_squeezeEmpty hbare)
  have hall : (content.flattenBlocks.trim.lines.flatMap fun line => line.filter Atom.isBreak) =
      [] := by
    rw [flatMap_filter_lines fun _ => rfl, filter_trim fun _ => rfl, filter_isBreak_flattenBlocks]
  rw [filter_quoteLine fun _ => rfl, filter_trim fun _ => rfl]
  exact List.flatMap_eq_nil_iff.1 hall source hsource

/-- Resolving the hard breaks between lines joins them by newlines. -/
theorem resolveHardBreaks_intersperse {lines : List Content}
    (h : ∀ line ∈ lines, line.filter Atom.isBreak = []) :
    resolveHardBreaks (lines.intersperse [.hardBreak]).flatten = Content.joinWith ['\n'] lines := by
  induction lines with
  | nil => rfl
  | cons line lines ih =>
    obtain ⟨hline, hlines⟩ := List.forall_mem_cons.1 h
    have hsame := resolveHardBreaks_of_unbroken hline
    -- a hard break stands behind every line but the last
    cases lines with
    | nil => simpa [Content.joinWith] using hsame
    | cons next more =>
      rw [List.intersperse_cons_cons, List.flatten_cons, List.flatten_cons,
        joinWith_cons (List.cons_ne_nil next more), ← ih hlines, resolveHardBreaks, List.map_append,
        List.map_append, ← resolveHardBreaks, ← resolveHardBreaks, hsame, List.append_assoc]
      rfl

/-- Without newlines there is nothing to replace. -/
theorem newlinesToSpaces_of_not_mem {content : Content} (h : .char '\n' ∉ content) :
    content.newlinesToSpaces = content := by
  fun_induction newlinesToSpaces content with
  | case1 => rfl
  | case2 rest ih => simp at h
  | case3 atom rest _ ih =>
    rw [List.mem_cons, not_or] at h
    rw [ih h.2, if_neg (Ne.symm h.1)]

/-- What a quotation sets between its boundaries: the marked lines, parted by hard breaks. -/
def quoted (content : Content) : Content :=
  ((quotedLines content).intersperse [.hardBreak]).flatten

theorem blockQuote_eq (content : Content) :
    blockQuote content = paragraphRegion (quoted content) := rfl

/-- What is on no line of a quotation is not in it, hard breaks apart. -/
theorem not_mem_quoted {atom : Atom} (hne : atom ≠ .hardBreak)
    (h : ∀ line ∈ quotedLines content, atom ∉ line) : atom ∉ quoted content := fun hmem => by
  rcases List.mem_flatten_intersperse hmem with hmem | ⟨line, hline, hmem⟩
  · exact hne (List.mem_singleton.1 hmem)
  · exact h line hline hmem

/-- Within a quotation there are no boundaries. -/
theorem boundary_not_mem_quoted (content : Content) : .boundary ∉ quoted content :=
  not_mem_quoted nofun fun _ hline => noBoundary_of_unbroken (filter_isBreak_quotedLines hline)

/-- The lines of a quotation are joined by newlines. -/
theorem resolveHardBreaks_quoted (content : Content) :
    (quoted content).resolveHardBreaks = Content.joinWith ['\n'] (quotedLines content) :=
  resolveHardBreaks_intersperse fun _ => filter_isBreak_quotedLines

/-- The lines are parted by hard breaks, so a region finds no newline that it would make a space. -/
theorem newlinesToSpaces_trim_quoted (content : Content) :
    (quoted content).trim.newlinesToSpaces = (quoted content).trim := by
  have hnot : .char '\n' ∉ quoted content :=
    not_mem_quoted nofun fun _ => newline_not_mem_quotedLines
  exact newlinesToSpaces_of_not_mem fun hmem => hnot (Content.mem_of_mem_trim hmem)

/-- A quotation is a region of its own.  Nothing in it opens a fence, whatever is quoted. -/
theorem laysFences_blockQuote (content : Content) : LaysFences (blockQuote content) := by
  rw [blockQuote_eq]
  refine .paragraphRegion (boundary_not_mem_quoted content) ?_
  rw [newlinesToSpaces_trim_quoted]
  refine Fenceless.resolve_trim ?_
  rw [resolveHardBreaks_quoted]
  refine .joinWith (fun line => newline_not_mem_quotedLines) fun line hline => ?_
  obtain ⟨bare, -, rfl⟩ := List.mem_map.1 hline
  exact seemsFence_quoteLine bare

/-! ## Lists -/

/-- The lines of the content are ended and seem no fences, and nothing else breaks them. -/
structure Listed (content : Content) : Prop where
  lines : ∃ lines, EndsLines content lines ∧ ∀ line ∈ lines, seemsFence (lead line) = false
  unbroken : content.filter Atom.isBreak = []

namespace Listed

variable {others : Content}

theorem nil : Listed [] := ⟨⟨[], .nil, by simp⟩, rfl⟩

/-- Lists stand one behind the other. -/
theorem append (h : Listed content) (h' : Listed others) : Listed (content ++ others) := by
  obtain ⟨⟨lines, hlines, hseems⟩, hunbroken⟩ := h
  obtain ⟨⟨lines', hlines', hseems'⟩, hunbroken'⟩ := h'
  refine ⟨⟨lines ++ lines', hlines.append hlines', fun line hline => ?_⟩, ?_⟩
  · exact (List.mem_append.1 hline).elim (hseems line) (hseems' line)
  · rw [List.filter_append, hunbroken, hunbroken']
    rfl

/-- A list shows no fence. -/
theorem laysFences (h : Listed content) : LaysFences content := by
  obtain ⟨⟨lines, hlines, hseems⟩, hunbroken⟩ := h
  exact .of_unbroken hunbroken (fenced_of_endsLines hlines hseems)

/-- The lines that are taken over from a nested list. -/
theorem seemsFence_of_mem_lines (h : Listed content) {line : Content}
    (hline : line ∈ content.lines) : seemsFence (lead line) = false := by
  obtain ⟨⟨lines, hlines, hseems⟩, -⟩ := h
  obtain ⟨whole, hwhole, hcut⟩ := exists_isPrefix_of_mem_lines hline
  -- such a line may have lost a carriage return at its end, which makes it no more of a fence
  refine seemsFence_lead_of_isPrefix hcut ?_
  rw [hlines] at hwhole
  rcases List.mem_append.1 hwhole with hwhole | hwhole
  · exact hseems whole hwhole
  · rw [List.mem_singleton.1 hwhole]
    rfl

end Listed

/-- The entry of a list is one line, and the lines of the lists inside it. -/
structure ListedEntry (e : ListEntry) : Prop where
  newline_not_mem : .char '\n' ∉ e.content.trim
  unbroken : e.content.filter Atom.isBreak = []
  nested : Listed e.nested

/-- The lines of an item are joined, whatever blocks they come from. -/
theorem newline_not_mem_trim_listItem (content : Content) :
    .char '\n' ∉ (listItem content).trim := by
  intro hmem
  rcases mem_joinWith (mem_of_mem_trim_concat (by decide) hmem) with hmem | ⟨line, hline, hmem⟩
  · exact absurd hmem (by decide)
  · obtain ⟨source, hsource, rfl⟩ := List.mem_map.1 (List.mem_filter.1 hline).1
    exact newline_not_mem_of_mem_lines hsource (mem_of_mem_trim hmem)

/-- The content of an item is on one line. -/
theorem filter_isBreak_listItem (content : Content) :
    (listItem content).filter Atom.isBreak = [] := by
  rw [filter_listItem fun _ => rfl, filter_isBreak_flattenBlocks]

/-- A marker begins with an asterisk or a digit. -/
theorem exists_listMarker_eq_cons (ordered : Bool) (number : Nat) :
    '\n' ∉ listMarker ordered number ∧
      ∃ x rest, listMarker ordered number = x :: rest ∧ isBlank x = false ∧ x ≠ '`' := by
  cases ordered with
  | false =>
    have hnot : '\n' ∉ ['*', ' '] := by decide
    exact ⟨hnot, '*', [' '], rfl, by decide, by decide⟩
  | true =>
    have hnot {x : Char} (hx : x.isDigit = false) : x ∉ Text.ofNat number := fun hmem => by
      rw [isDigit_of_mem_ofNat hmem] at hx
      cases hx
    obtain ⟨x, rest, hnumber, hx⟩ := exists_ofNat_eq_cons number
    refine ⟨by simp [listMarker, hnot], x, rest ++ ['.', ' '], ?_, hx, ?_⟩
    · simp [listMarker, hnumber]
    -- a number does not begin with a backtick
    rintro rfl
    exact hnot rfl (hnumber ▸ List.mem_cons_self)

/-- Every line of a list begins with an indent and a marker, its own or that of a nested list. -/
theorem seemsFence_listLines {indent : Text} (hindent : ∀ x ∈ indent, isBlank x ∧ x ≠ '\n')
    (ordered : Bool) {number : Nat} {entries : List ListEntry}
    (h : ∀ e ∈ entries, ListedEntry e) {line : Content}
    (hline : line ∈ listLines indent ordered number entries) :
    .char '\n' ∉ line ∧ seemsFence (lead line) = false := by
  obtain ⟨e, he, hnested | ⟨k, rfl⟩⟩ := mem_listLines hline
  · -- the line of a nested list keeps the indent that it has there
    exact ⟨newline_not_mem_of_mem_lines hnested, (h e he).nested.seemsFence_of_mem_lines hnested⟩
  · -- the line of an item begins with its marker, behind its indent
    obtain ⟨hmarker, x, rest, heq, hx, hne⟩ := exists_listMarker_eq_cons ordered k
    have hnewline : '\n' ∉ indent := fun hmem => (hindent _ hmem).2 rfl
    have hfront : '\n' ∉ indent ++ listMarker ordered k := by simp [hnewline, hmarker]
    refine ⟨?_, ?_⟩
    · simp [ofText, (h e he).newline_not_mem, hnewline, hmarker]
    · rw [lead_ofText_append hfront, List.append_assoc,
        seemsFence_blank_append fun y hy => (hindent y hy).1, heq, List.cons_append]
      exact seemsFence_visible_cons hx hne _

theorem listed_list (hblank : ∀ x ∈ c.indent, x = ' ' ∨ x = '\t') {entries : List ListEntry}
    (h : ∀ e ∈ entries, ListedEntry e) (ordered : Bool) (level start : Nat) :
    Listed (list c entries ordered level start) := by
  have hindent : ∀ x ∈ Text.times (level - 1) c.indent, isBlank x ∧ x ≠ '\n' := by
    intro x hx
    rcases hblank x (mem_of_mem_times hx) with rfl | rfl <;> decide
  have hlines := fun line (hline : line ∈ listLines _ ordered start entries) =>
    seemsFence_listLines hindent ordered h hline
  -- the lines are joined without a fence among them
  have hfenceless : Fenceless (joinWith ['\n']
      (listLines (Text.times (level - 1) c.indent) ordered start entries)) :=
    .joinWith (fun line hline => (hlines line hline).1) fun line hline => (hlines line hline).2
  refine ⟨?_, ?_⟩
  · -- two newlines end the last line and an empty one
    have hlast := EndsLines.append_newline (joinWith ['\n']
      (listLines (Text.times (level - 1) c.indent) ordered start entries))
    have hempty := EndsLines.append_newline []
    refine ⟨_, by simpa [list, ofText] using hlast.append hempty, fun line hline => ?_⟩
    exact (List.mem_append.1 hline).elim (hfenceless line) (Fenceless.nil line)
  · -- what would break a line is gone from the items, and from the lists in them
    rw [filter_list fun _ => rfl, List.flatMap_eq_nil_iff]
    intro e he
    rw [(h e he).unbroken, (h e he).nested.unbroken]
    rfl

/-- An item is an entry, with the box that it may have. -/
theorem listedEntry_itemCall (kind : NodeKind) (content : Content) (level : Nat)
    {nested : Content} (hnested : Listed nested) :
    ListedEntry ⟨(itemCall (gemtextRenderer c) kind content level s).1, nested⟩ := by
  have hitem (content : Content) : ListedEntry ⟨listItem content, nested⟩ :=
    ⟨newline_not_mem_trim_listItem content, filter_isBreak_listItem content, hnested⟩
  cases kind with
  | taskItem symbol => exact hitem _
  | _ => exact hitem content

theorem exists_shape_of_isList {kind : NodeKind} {children : List Node}
    (h : (mk kind children).isList) : ∃ shape, kind = .list shape := by
  cases kind with
  | list shape => exact ⟨shape, rfl⟩
  | _ => exact absurd h Bool.false_ne_true

/-- A list is rendered from its entries. -/
theorem yields_renderIn_list {σ : Type} {r : Renderer σ} {tight : Bool} {level : Nat}
    {shape : ListShape} {items : List Node} {s s' : σ}
    (h : Yields (renderIn r tight level (mk (.list shape) items)) s content s') :
    ∃ entries between, Yields (renderItems r shape.tight (level + 1) items) s entries between ∧
      r.list entries shape.ordered (level + 1) shape.start between = (content, s') := by
  cases rendered_of_yields h with
  | leaf hleaf => cases hleaf
  | container hcontainer => cases hcontainer
  | list hkind hitems hcall =>
    cases hkind
    exact ⟨_, _, hitems, hcall⟩
  | table hkind => cases hkind

mutual

/-- A list is rendered in lines that seem no fences, whatever its items hold. -/
theorem listed_renderIn (hblank : ∀ x ∈ c.indent, x = ' ' ∨ x = '\t')
    {tight : Bool} {level : Nat} {node : Node}
    {s s' : RenderState} {content : Content} (hlist : node.isList)
    (h : Yields (renderIn (gemtextRenderer c) tight level node) s content s') : Listed content := by
  obtain ⟨kind, items⟩ := node
  obtain ⟨shape, rfl⟩ := exists_shape_of_isList hlist
  obtain ⟨entries, between, hitems, hcall⟩ := yields_renderIn_list h
  have hentries := listed_renderItems hblank hitems
  have hlisted := listed_list hblank hentries shape.ordered (level + 1) shape.start
  obtain rfl := (Prod.mk.inj hcall).1
  exact hlisted

theorem listed_renderItems (hblank : ∀ x ∈ c.indent, x = ' ' ∨ x = '\t')
    {tight : Bool} {level : Nat} {items : List Node}
    {s s' : RenderState} {entries : List ListEntry}
    (h : Yields (renderItems (gemtextRenderer c) tight level items) s entries s') :
    ∀ e ∈ entries, ListedEntry e := by
  cases items with
  | nil =>
    obtain ⟨rfl, rfl⟩ := yields_renderItems_nil.1 h
    simp
  | cons item items =>
    obtain ⟨kind, children⟩ := item
    obtain ⟨parts, s₁, hparts, content, s₂, hcall, others, hothers, rfl⟩ :=
      yields_renderItems_cons.1 h
    -- the lists within the first item are listed as well
    have hentry := listedEntry_itemCall (c := c) (s := s₁) kind parts.content level
      (listed_renderItemParts hblank hparts)
    rw [hcall] at hentry
    exact List.forall_mem_cons.2 ⟨hentry, listed_renderItems hblank hothers⟩

/-- Of the children of an item, the lists alone are rendered behind its line. -/
theorem listed_renderItemParts (hblank : ∀ x ∈ c.indent, x = ' ' ∨ x = '\t')
    {tight : Bool} {level : Nat} {nodes : List Node}
    {s s' : RenderState} {parts : ListEntry}
    (h : Yields (renderItemParts (gemtextRenderer c) tight level nodes) s parts s') :
    Listed parts.nested := by
  cases nodes with
  | nil =>
    obtain ⟨rfl, rfl⟩ := yields_renderItemParts_nil.1 h
    exact .nil
  | cons node nodes =>
    obtain ⟨content, s₁, hcontent, others, hothers, rfl⟩ := yields_renderItemParts_cons.1 h
    have hrest := listed_renderItemParts hblank hothers
    -- only the lists among the children are kept as lines
    by_cases hlist : node.isList
    · rw [addPart, if_pos hlist]
      exact (listed_renderIn hblank hlist hcontent).append hrest
    · rw [addPart, if_neg hlist]
      exact hrest

end

/-! ## Blocks -/

/-- Rows are kept for the drawing of the table. -/
theorem content_renderRows {alignments : List Alignment} {level : Nat} {rows : List Node}
    {s s' : RenderState}
    (h : Yields (renderRows (gemtextRenderer c) alignments level rows) s content s') :
    content = [] := by
  induction rows generalizing content s with
  | nil => exact (yields_renderRows_nil.1 h).1
  | cons row rows ih =>
    obtain ⟨kind, children⟩ := row
    obtain ⟨cells, s₁, -, row, s₂, hcall, others, hothers, rfl⟩ := yields_renderRows_cons.1 h
    -- a row is gathered in the state
    have hrow : (rowCall (gemtextRenderer c) kind cells s₁).1 = [] := by
      unfold rowCall
      split <;> rfl
    rw [hcall] at hrow
    rw [ih hothers, show row = [] from hrow]
    rfl

/-- What has no children is a rule, or stands between fences. -/
theorem laysFences_leaf (hc : c.Plain) {kind : NodeKind} {children : List Node}
    {call : StateM RenderState Content} (hblock : kind.isBlock) (hplain : kind.isPlain)
    (h : leafCall? (gemtextRenderer c) kind children = some call) : LaysFences (call s).1 := by
  cases kind <;> cases h
  case frontMatter => exact .nil
  case thematicBreak => exact laysFences_thematicBreak
  case codeBlock info literal =>
    obtain ⟨hinfo, hliteral⟩ := Bool.and_eq_true_iff.1 hplain
    refine laysFences_codeBlock hc (by simpa using hliteral) fun text htext => ?_
    split at htext
    · cases htext
    · exact Option.some.inj htext ▸ (isPlain_iff.1 hinfo).2
  case htmlBlock literal => exact laysFences_htmlBlock hc (by simpa [NodeKind.isPlain] using hplain)
  -- all other leaves are inline nodes
  all_goals cases hblock

/-- Every block of a document is laid out with its fences in pairs. -/
theorem laysFences_renderIn (hc : c.Plain) {level : Nat} {node : Node} {s s' : RenderState}
    (hblock : node.kind.isBlock) (hplain : node.isPlain) (hlayered : node.layered)
    (hs : s.FramedTable) (hlinks : TableLinksOnly s)
    (h : Yields (renderIn (gemtextRenderer c) false level node) s content s') :
    LaysFences content := by
  obtain ⟨kind, children⟩ := node
  obtain ⟨hkind, hchildren⟩ := everywhere_mk.1 hplain
  cases rendered_of_yields h with
  | leaf hleaf hcall =>
    have hlaid := laysFences_leaf (s := s) hc hblock hkind hleaf
    rwa [hcall] at hlaid
  | @container inner between hcontainer hinner hcall =>
    have hfits := (everywhere_mk.1 hlayered).1
    -- paragraphs and headings hold one line; of a quotation it does not matter what it holds
    have hline (hinline : children.all isInline) : SpannedLine inner :=
      spannedLine_renderAll hc hchildren hinline hinner
    obtain rfl : (closeCall (gemtextRenderer c) false kind children inner between).1 = content := by
      rw [hcall]
    cases kind with
    | paragraph => exact laysFences_paragraph (hline hfits)
    | heading depth => exact laysFences_heading depth (hline hfits)
    | blockQuote => exact laysFences_blockQuote inner
    -- all other containers are no blocks
    | _ =>
      first
        | exact absurd hblock Bool.false_ne_true
        | exact absurd hcontainer Bool.false_ne_true
  | list hlist hitems hcall =>
    have hnode : (mk kind children).isList := by rw [hlist]; rfl
    exact (listed_renderIn hc.indent hnode h).laysFences
  | table htable hrows hcall hcontent =>
    rw [hcontent, content_renderRows hrows]
    have htrue := everywhereAll_true children
    exact laysFences_table hc ((keeps_framed c).of_renderRows htrue hs hrows).2
      ((keeps_paired c).of_renderRows htrue hlinks hrows).2 hcall

/-- Blocks one behind the other show their fences in pairs. -/
theorem laysFences_renderAll (hc : c.Plain) {level : Nat} {nodes : List Node} {s s' : RenderState}
    (hblock : nodes.all fun node => node.kind.isBlock) (hplain : nodes.all isPlain)
    (hlayered : nodes.all layered) (hs : s.FramedTable) (hlinks : TableLinksOnly s)
    (h : Yields (renderAll (gemtextRenderer c) level nodes) s content s') :
    LaysFences content := by
  induction nodes generalizing content s with
  | nil =>
    obtain ⟨rfl, -⟩ := yields_renderAll_nil.1 h
    exact .nil
  | cons node nodes ih =>
    simp only [List.all_cons, Bool.and_eq_true] at hblock hplain hlayered
    obtain ⟨first, s₁, hfirst, others, hothers, rfl⟩ := yields_renderAll_cons.1 h
    -- the table that is gathered stays what it has to be
    have htrue := everywhere_true node
    have hs₁ := ((keeps_framed c).of_renderIn htrue hs hfirst).2
    have hlinks₁ := ((keeps_paired c).of_renderIn htrue hlinks hfirst).2
    exact (laysFences_renderIn hc hblock.1 hplain.1 hlayered.1 hs hlinks hfirst).append
      (ih hblock.2 hplain.2 hlayered.2 hs₁ hlinks₁ hothers)

end Render

/-! ## Documents -/

open Content Layout Markdown Render Node

/-- The content of a document, or of a single block, is laid out with its fences in pairs. -/
theorem Render.laysFences_body {c : Conversion} (hc : c.Plain) {level : Nat} {tree : Node}
    {s : RenderState} {content : Content} (hroot : tree.kind = .document ∨ tree.kind.isBlock)
    (hplain : tree.isPlain) (hlayered : tree.layered)
    (h : Yields (tree.renderIn (gemtextRenderer c) false level) .initial content s) :
    LaysFences content := by
  have hs : RenderState.initial.FramedTable := fun _ ht => by cases ht
  have hlinks : TableLinksOnly .initial := fun _ hatom => by cases hatom
  rcases hroot with hroot | hblock
  · obtain ⟨kind, children⟩ := tree
    obtain rfl : kind = .document := hroot
    obtain ⟨hfits, hbelow⟩ := everywhere_mk.1 hlayered
    rw [renderIn_document] at h
    refine laysFences_renderAll hc hfits ?_ ?_ hs hlinks h
    · exact everywhereAll_eq_all children ▸ (everywhere_mk.1 hplain).2
    · exact everywhereAll_eq_all children ▸ hbelow
  · exact laysFences_renderIn hc hblock hplain hlayered hs hlinks h

section

variable {c : Conversion} {level : Nat} {tree : Node} {r : Rendition}

/-- The body of a document shows its fences in pairs. -/
theorem Render.fenced_body (hc : c.Plain) (hroot : tree.kind = .document ∨ tree.kind.isBlock)
    (hplain : tree.isPlain) (hlayered : tree.layered) (h : renderTree c level tree = .ok r) :
    Fenced r.body.layoutParagraphs.resolveHardBreaks := by
  obtain ⟨s, hbody, -, -⟩ := renderTree_eq_ok.1 h
  exact (laysFences_body hc hroot hplain hlayered hbody).fenced

/-- Behind a document stand the link lines of its last footnotes. -/
theorem Render.isLink_of_mem_trailing (h : renderTree c level tree = .ok r) :
    ∀ atom ∈ r.trailing, atom.isLink := by
  obtain ⟨s, -, htrailing, -⟩ := renderTree_eq_ok.1 h
  rw [htrailing]
  exact fun _ => isLink_of_mem_flushFootnotes

/-- Plain strings make link lines that are written on one line each. -/
theorem Render.newline_not_mem_print (hc : c.Plain) (hplain : tree.isPlain)
    (h : renderTree c level tree = .ok r) (line : LinkLine)
    (hline : .link line ∈ r.body.layoutParagraphs.resolveHardBreaks ++ r.trailing) :
    '\n' ∉ line.print := by
  obtain ⟨s, hbody, htrailing, -⟩ := renderTree_eq_ok.1 h
  -- in the beginning nothing waits
  have hinitial : RenderState.initial.OneLine :=
    ⟨(fun _ hnote => by cases hnote), fun _ hlink => by cases hlink⟩
  obtain ⟨hlinks, hs⟩ := (keeps_oneLine hc).of_renderIn hplain hinitial hbody
  have hnotes : OneLineLinks r.trailing := by
    rw [htrailing]
    exact (oneLine_flushFootnotes hs s.footnotes.pending.length).1
  rcases List.mem_append.1 hline with hline | hline
  · -- laying out the paragraphs puts in no link line
    rcases mem_layoutParagraphs (mem_resolveHardBreaks_link hline) with hline | hline | hline
    · exact hlinks line hline
    · cases hline
    · cases hline
  · exact hnotes line hline

end

/-- A document with plain strings, rendered with plain options, has an even number of fences, unless
some text behind a link line begins like a fence. -/
theorem even_fences_renderTree {c : Conversion} {level : Nat} {tree : Node} {r : Rendition}
    (hc : c.Plain) (hroot : tree.kind = .document ∨ tree.kind.isBlock) (hplain : tree.isPlain)
    (hlayered : tree.layered) (h : renderTree c level tree = .ok r)
    (hbehind : ∀ before line after,
      r.body.layoutParagraphs.resolveHardBreaks = before ++ .link line :: after →
        isFence (lead after).trimStart = false) :
    Even (r.text.lines.countP isFence) := by
  exact even_fences_layout (fenced_body hc hroot hplain hlayered h) (isLink_of_mem_trailing h)
    (newline_not_mem_print hc hplain h) hbehind

/-- The code of an item is text of the item's line, unless a link line stands before it there. -/
theorem even_fences_renderTree_items :
    let code := Node.mk (.codeBlock [] ['c', '\n']) []
    let link := Node.mk .paragraph [.mk (.link ['u']) [.mk (.text ['x']) []]]
    let items := Node.mk (.list ⟨false, false, 1⟩) [.mk .item [link], .mk .item [code]]
    let tree := Node.mk .document [code, items]
    let body := ofText "```\nc\n```\n\n* ".toList ++ .link ⟨['u'], some ['x']⟩ ::
      ofText "\n* ``` c ```\n\n".toList
    let r : Rendition := ⟨body, [], 0⟩
    Conversion.standard.Plain ∧ tree.kind = .document ∧ tree.isPlain ∧ tree.layered ∧
      renderTree .standard 0 tree = .ok r ∧
      (∀ before line after,
        body.layoutParagraphs.resolveHardBreaks = before ++ .link line :: after →
          isFence (lead after).trimStart = false) ∧
      Even (r.text.lines.countP isFence) := by
  intro code link items tree body r
  have hplain : tree.isPlain := by decide
  have hlayered : tree.layered := by decide
  have hrender : renderTree .standard 0 tree = .ok r := rfl
  have hbehind (before : Content) (line : LinkLine) (after : Content)
      (hlink : body.layoutParagraphs.resolveHardBreaks = before ++ .link line :: after) :
      isFence (lead after).trimStart = false := by
    -- there is one link, and behind it the line ends
    have hnot (text : Text) : .link line ∉ ofText text := by simp [ofText]
    have hsame : body.layoutParagraphs.resolveHardBreaks = body := rfl
    rw [hsame] at hlink
    obtain ⟨-, -, rfl⟩ := (List.append_cons_inj_of_notMem (hnot _) (hnot _)).1 hlink
    rfl
  exact ⟨Config.plain_default, rfl, hplain, hlayered, hrender, hbehind,
    even_fences_renderTree Config.plain_default (.inl rfl) hplain hlayered hrender hbehind⟩

/-- Isolating the link line puts the code of the item at the beginning of a line, where it opens a
fence that nothing closes. -/
theorem odd_fences_item :
    let code := Node.mk (.codeBlock [] ['c', '\n']) []
    let link := Node.mk .paragraph [.mk (.link ['u']) [.mk (.text ['x']) []]]
    let items := Node.mk (.list ⟨false, false, 1⟩) [.mk .item [link, code]]
    let tree := Node.mk .document [items, .mk .paragraph [.mk (.text "after".toList) []]]
    tree.isPlain ∧ tree.layered ∧ tree.wellShaped ∧
      ∃ r, renderTree .standard 0 tree = .ok r ∧ r.text = "*\n=> u x\n``` c ```\n\nafter".toList ∧
        r.text.lines.countP isFence = 1 := by
  intro code link items tree
  exact ⟨by decide, by decide, by decide, _, rfl, by decide +kernel, by decide +kernel⟩

end Gemtext
