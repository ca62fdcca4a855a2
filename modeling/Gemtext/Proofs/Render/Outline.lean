import Gemtext.Standard.Library
import Gemtext.Proofs.Content.Prose
import Gemtext.Proofs.Layout.Seams
import Gemtext.Proofs.Markdown.Outline
import Gemtext.Proofs.Render.TidyBlocks

/-!
# Nested lists as lines

A list is rendered to the lines of its outline and a blank line: each item of it and of the lists
within it becomes one line (`renderIn_list`).  A list within an item is rendered before the item
is, with its indent.  Lists around it read its lines again and put them behind the item's own line,
as they are: each begins and ends so that reading it as a line changes nothing (`ReadsBack`).
-/

namespace Gemtext

open Text Content

/-! ## Lines that are read back -/

namespace Text

/-- The line is read as it is, and it is not blank. -/
structure Stable (line : Text) : Prop where
  newline : '\n' ∉ line
  visible : line.allBlank = false
  ended : ∀ start, line ≠ start ++ ['\r']

/-- The lines of the text end with newlines, and without the blank ones they are these. -/
def ReadsBack (s : Text) (lines : List Text) : Prop :=
  ∃ pieces, splitOn '\n' s = pieces ++ [[]] ∧ (∀ piece ∈ pieces, ∀ start, piece ≠ start ++ ['\r']) ∧
    pieces.filter (!·.allBlank) = lines

namespace ReadsBack

variable {s t : Text} {lines others : List Text}

theorem nil : ReadsBack [] [] :=
  ⟨[], rfl, nofun, rfl⟩

/-- Texts whose lines are ended are read one behind the other. -/
theorem append (hs : ReadsBack s lines) (ht : ReadsBack t others) :
    ReadsBack (s ++ t) (lines ++ others) := by
  obtain ⟨pieces, hsplit, hended, rfl⟩ := hs
  obtain ⟨pieces', hsplit', hended', rfl⟩ := ht
  refine ⟨pieces ++ pieces', ?_, List.forall_mem_append.2 ⟨hended, hended'⟩, List.filter_append _ _⟩
  rw [Layout.splitOn_append_of_ends hsplit, hsplit', List.append_assoc]

/-- Stable lines and a blank one. -/
theorem of_stable (h : ∀ line ∈ lines, Stable line) :
    ReadsBack (joinWith ['\n'] lines ++ ['\n', '\n']) lines := by
  have hfilter : lines.filter (!·.allBlank) = lines :=
    List.filter_eq_self.2 fun line hline => by rw [(h line hline).visible]; rfl
  by_cases hnone : lines = []
  · subst hnone
    exact ⟨[[], []], rfl, by simp, rfl⟩
  · refine ⟨lines ++ [[]], ?_, ?_, ?_⟩
    · rw [splitOn_append_cons, splitOn_joinWith hnone fun line hline => (h line hline).newline,
        List.append_assoc]
      rfl
    · exact List.forall_mem_append.2 ⟨fun line hline => (h line hline).ended, by simp⟩
    · rw [List.filter_append, hfilter]
      exact List.append_nil _

/-- The lines that are not blank are read back. -/
theorem filter_lines (h : ReadsBack s lines) :
    (ofText s).lines.filter (!·.isBlank) = lines.map ofText := by
  obtain ⟨pieces, hsplit, hended, rfl⟩ := h
  have hsame : s.unifyNewlines = s := by
    refine unifyNewlines_of_ended ?_
    rw [hsplit]
    exact List.forall_mem_append.2 ⟨hended, by simp⟩
  have hlines : s.lines = pieces := by
    rw [Text.lines, hsame, hsplit, List.getLast?_concat]
    exact List.dropLast_concat
  rw [lines_ofText, filter_isBlank_ofText, hlines]

end ReadsBack

end Text

/-! ## The content of an item -/

namespace Content

/-- Flattened, the content is text whose lines are ended, and without blank ones they are these. -/
def Spells (content : Content) (lines : List Text) : Prop :=
  ∃ s, content.flattenBlocks = ofText s ∧ s.EndsLine ∧ trimmedLines (Text.splitOn '\n' s) = lines

namespace Spells

variable {c d : Content} {lines others : List Text}

theorem nil : Spells [] [] :=
  ⟨[], rfl, .inl rfl, rfl⟩

/-- Contents are spelled one behind the other. -/
theorem append (hc : Spells c lines) (hd : Spells d others) :
    Spells (c ++ d) (lines ++ others) := by
  obtain ⟨s, hs, hends, rfl⟩ := hc
  obtain ⟨t, ht, hends', rfl⟩ := hd
  refine ⟨s ++ t, by rw [flattenBlocks_append, hs, ht, ofText_append], ?_, ?_⟩
  · rcases hends' with rfl | ⟨start, rfl⟩
    · rwa [List.append_nil]
    · exact .inr ⟨s ++ start, (List.append_assoc ..).symm⟩
  · -- the last line of the first content is ended, so that none of the second joins it
    rcases hends with rfl | ⟨start, rfl⟩
    · rfl
    · rw [List.append_assoc, List.singleton_append, trimmedLines_splitOn_append_newline,
        trimmedLines_splitOn_append_newline, trimmedLines_splitOn_nil, List.append_nil]

end Spells

end Content

namespace Render

variable {c : Conversion} {content : Content} {lines : List Text}

/-- An item is its lines, joined by spaces. -/
theorem listItem_of_flattenBlocks {s : Text} (h : content.flattenBlocks = ofText s) :
    listItem content =
      ofText (Text.joinWith [' '] (trimmedLines (Text.splitOn '\n' s)) ++ ['\n']) := by
  rw [listItem, h, lines_ofText, map_trim_ofText, filter_isBlank_ofText, filter_allBlank_map_trim,
    trimmedLines_lines, joinWith_map_ofText, ofText_append]
  rfl

/-- An item is its lines, joined by spaces. -/
theorem listItem_of_spells (h : content.Spells lines) :
    listItem content = ofText (Text.joinWith [' '] lines ++ ['\n']) := by
  obtain ⟨s, hs, -, rfl⟩ := h
  exact listItem_of_flattenBlocks hs

/-- A box is a visible text on one line. -/
theorem framed_checkbox (c : Conversion) (checked : Bool) :
    Framed (checkbox c checked) ∧ '\n' ∉ checkbox c checked := by
  unfold checkbox
  split
  · exact ⟨⟨⟨_, _, rfl, by decide⟩, ⟨[], _, rfl, by decide⟩⟩, by decide⟩
  · exact ⟨⟨⟨_, _, rfl, by decide⟩, ⟨[], _, rfl, by decide⟩⟩, by decide⟩
  · exact ⟨⟨⟨_, _, rfl, by decide⟩, ⟨['[', 'x'], _, rfl, by decide⟩⟩, by decide⟩
  · exact ⟨⟨⟨_, _, rfl, by decide⟩, ⟨['[', ' '], _, rfl, by decide⟩⟩, by decide⟩

/-- So is an item with a box, behind the box. -/
theorem taskListItem_of_spells (h : content.Spells lines) (checked : Bool) :
    taskListItem c content checked =
      ofText (Text.joinWith [' '] (checkbox c checked :: lines) ++ ['\n']) := by
  obtain ⟨s, hs, -, rfl⟩ := h
  have hflat : (ofText (checkbox c checked ++ [' ']) ++ content.flattenBlocks.trim).flattenBlocks =
      ofText (checkbox c checked ++ ' ' :: s.trim) := by
    rw [hs, trim_ofText, ← ofText_append, flattenBlocks_ofText]
    simp
  obtain ⟨hbox, hnewline⟩ := framed_checkbox c checked
  rw [taskListItem, listItem_of_flattenBlocks hflat, joinWith_trimmedLines_mark hbox hnewline]

end Render

namespace Markdown

open Render

variable {c : Conversion}

/-! ## The line of an item -/

namespace OutlineItem

/-- What stands in front of an item: its number, or a bullet. -/
def marker (item : OutlineItem) : Text :=
  match item.number with
  | some number => Text.ofNat number ++ ['.', ' ']
  | none => ['*', ' ']

/-- The text of an item, behind its box if it has one. -/
def text (c : Conversion) (item : OutlineItem) : Text :=
  Text.joinWith [' '] ((item.checked.map (checkbox c)).toList ++ item.lines)

/-- The line of an item. -/
def print (c : Conversion) (item : OutlineItem) : Text :=
  Text.times (item.depth - 1) c.indent ++ item.marker ++ item.text c

/-- The item's lines are as trimming leaves them. -/
def Trimmed (item : OutlineItem) : Prop :=
  ∀ line ∈ item.lines, Framed line ∧ '\n' ∉ line

/-- A marker begins visibly and ends with a space. -/
theorem exists_marker_eq (item : OutlineItem) :
    ∃ x rest, item.marker = x :: rest ++ [' '] ∧ isBlank x = false ∧ '\n' ∉ item.marker := by
  rw [marker]
  cases item.number with
  | none => exact ⟨'*', [], rfl, by decide, by decide⟩
  | some number =>
    obtain ⟨d, rest, hdigits, hd⟩ := exists_ofNat_eq_cons number
    have hnewline : '\n' ∉ Text.ofNat number := fun h =>
      absurd (isDigit_of_mem_ofNat h) (by decide)
    exact ⟨d, rest ++ ['.'], by simp [hdigits], hd, by simp [hnewline]⟩

/-- The text of an item is on one line, and visible at both ends if there is any. -/
theorem framed_text {item : OutlineItem} (h : item.Trimmed) :
    (item.text c = [] ∨ Framed (item.text c)) ∧ '\n' ∉ item.text c := by
  -- the box and the lines are visible at both ends
  have hpieces : ∀ piece ∈ (item.checked.map (checkbox c)).toList ++ item.lines,
      Framed piece ∧ '\n' ∉ piece := by
    refine List.forall_mem_append.2 ⟨fun piece hpiece => ?_, h⟩
    obtain ⟨checked, -, rfl⟩ := Option.map_eq_some_iff.1 (Option.mem_toList.1 hpiece)
    exact framed_checkbox c checked
  refine ⟨?_, fun hn => ?_⟩
  · rw [text]
    by_cases hnone : (item.checked.map (checkbox c)).toList ++ item.lines = []
    · rw [hnone]
      exact .inl rfl
    · exact .inr (.joinWith hnone (fun piece hpiece => (hpieces piece hpiece).1) _)
  · rcases Text.mem_joinWith hn with hn | ⟨piece, hpiece, hn⟩
    · exact absurd hn (by decide)
    · exact (hpieces piece hpiece).2 hn

/-- The line of an item is neither blank nor two lines, and does not end with a carriage return. -/
theorem stable_print {item : OutlineItem} (h : item.Trimmed) (hindent : '\n' ∉ c.indent) :
    Stable (item.print c) := by
  obtain ⟨x, rest, hmarker, hx, hnewline⟩ := item.exists_marker_eq
  obtain ⟨htext, hnewline'⟩ : (item.text c = [] ∨ Framed (item.text c)) ∧ '\n' ∉ item.text c :=
    framed_text h
  refine ⟨?_, ?_, fun start heq => ?_⟩
  · rw [print, List.mem_append, List.mem_append]
    rintro ((hn | hn) | hn)
    · exact hindent (mem_of_mem_times hn)
    · exact hnewline hn
    · exact hnewline' hn
  · have hmem : x ∈ item.print c := by simp [print, hmarker]
    exact List.all_eq_false.2 ⟨x, hmem, by simp [hx]⟩
  · -- the line ends with the space behind the marker, or visibly
    rcases htext with hnone | htext
    · rw [print, hnone, hmarker, List.append_nil, ← List.append_assoc] at heq
      exact absurd (List.append_inj' heq rfl).2 (by decide)
    · obtain ⟨init, last, htext, hlast⟩ := htext.last
      rw [print, htext, ← List.append_assoc] at heq
      exact ne_of_visible hlast rfl (List.singleton_inj.1 (List.append_inj' heq rfl).2)

/-- So trimming takes nothing but the newline off. -/
theorem trim_text {item : OutlineItem} (h : item.Trimmed) :
    Text.trim (item.text c ++ ['\n']) = item.text c := by
  rw [trim_append_blank (by simp [isBlank])]
  obtain hnone | htext : item.text c = [] ∨ Framed (item.text c) := (framed_text h).1
  · rw [hnone]
    rfl
  · exact htext.trim_eq

end OutlineItem

namespace Node

/-- The text that a list is rendered to: the lines of its outline, and a blank one. -/
def outlineText (c : Conversion) (items : List OutlineItem) : Text :=
  Text.joinWith ['\n'] (items.map (·.print c)) ++ ['\n', '\n']

variable {s : RenderState}

/-- Text and line breaks. -/
theorem yields_renderAll_prose (level : Nat) {nodes : List Node} (h : nodes.all (·.kind.isProse)) :
    ∃ content, Yields (renderAll (gemtextRenderer c) level nodes) s content s ∧ content.Prose ∧
      content.visibleText = sourceText nodes := by
  induction nodes with
  | nil => exact ⟨[], yields_renderAll_nil.2 ⟨rfl, rfl⟩, .nil, rfl⟩
  | cons node nodes ih =>
    rw [List.all_cons, Bool.and_eq_true] at h
    obtain ⟨others, hothers, hprose, htext⟩ := ih h.2
    -- a text, or the end of a line
    have hnode : ∃ content, Yields (renderIn (gemtextRenderer c) false level node) s content s ∧
        content.Prose ∧ content.visibleText = sourceText [node] := by
      obtain ⟨kind, children⟩ := node
      cases kind with
      | text text =>
        refine ⟨ofText text, ?_, .ofText text, ?_⟩
        · rw [renderIn_leaf rfl, yields_liftM]
          rfl
        · rw [visibleText_ofText]
          exact (List.append_nil text).symm
      | softBreak => exact ⟨ofText ['\n'], rfl, .ofText _, rfl⟩
      | lineBreak => exact ⟨[.hardBreak], rfl, by simp [Prose], rfl⟩
      | _ => cases h.1
    obtain ⟨first, hfirst, hprose', htext'⟩ := hnode
    refine ⟨first ++ others, yields_renderAll_cons.2 ⟨first, s, hfirst, others, hothers, rfl⟩,
      hprose'.append hprose, ?_⟩
    rw [visibleText_append, htext, htext', sourceText, sourceText, sourceText,
      ← List.flatMap_append]
    rfl

/-- Without footnotes a paragraph is its region. -/
theorem paragraph_of_noPending (hpending : s.footnotes.pending = []) (content : Content) :
    Render.paragraph c content s = (paragraphRegion content, s) := by
  simp [Render.paragraph, isSingleLink, hpending]

/-- A paragraph spells its lines, be it in a tight list or not. -/
theorem yields_renderIn_paragraph (hpending : s.footnotes.pending = []) (tight : Bool)
    (level : Nat) {children : List Node} (h : children.all (·.kind.isProse)) :
    ∃ content,
      Yields (renderIn (gemtextRenderer c) tight level (mk .paragraph children)) s content s ∧
        content.Spells (trimmedLines (Text.splitOn '\n' (sourceText children))) := by
  obtain ⟨inner, hinner, hprose, htext⟩ := yields_renderAll_prose (c := c) (s := s) level h
  rw [← htext]
  have hcall {content : Content}
      (hclose : closeCall (gemtextRenderer c) tight .paragraph children inner s = (content, s)) :
      Yields (renderIn (gemtextRenderer c) tight level (mk .paragraph children)) s content s := by
    simp only [renderIn_container (show isContainer .paragraph from rfl), yields_bind, yields_liftM]
    exact ⟨(), s, rfl, inner, s, hinner, hclose⟩
  cases tight with
  | true =>
    -- the content alone, without a region around it
    refine ⟨inner ++ [.char '\n'], hcall rfl, inner.visibleText ++ ['\n'], ?_, .inr ⟨_, rfl⟩, ?_⟩
    · rw [flattenBlocks_append, hprose.flattenBlocks_eq, ofText_append]
      rfl
    · rw [trimmedLines_splitOn_append_newline, trimmedLines_splitOn_nil, List.append_nil]
  | false =>
    refine ⟨paragraphRegion inner, hcall (paragraph_of_noPending hpending inner),
      '\n' :: inner.visibleText ++ ['\n'], ?_, .inr ⟨_, rfl⟩, ?_⟩
    · show Atom.char '\n' :: (inner ++ [Atom.boundary]).flattenBlocks = _
      rw [flattenBlocks_append, hprose.flattenBlocks_eq, List.cons_append]
      exact congrArg (List.cons _) (ofText_append inner.visibleText ['\n']).symm
    · rw [List.cons_append, trimmedLines_splitOn_blank_cons (by decide),
        trimmedLines_splitOn_append_newline, trimmedLines_splitOn_nil, List.append_nil]

/-- What an item is rendered to. -/
theorem itemCall_of_spells (item : OutlineItem) {content : Content}
    (h : content.Spells item.lines) {kind : NodeKind} (hkind : kind.isItem)
    (hchecked : item.checked = kind.checked?) (level : Nat) :
    itemCall (gemtextRenderer c) kind content level s = (ofText (item.text c ++ ['\n']), s) := by
  rw [OutlineItem.text, hchecked]
  cases kind with
  | item => exact congrArg (·, s) (listItem_of_spells h)
  | taskItem symbol => exact congrArg (·, s) (taskListItem_of_spells h symbol.isSome)
  | _ => cases hkind

/-- The lines of an item and of the lists within it. -/
theorem listLines_cons_of_trimmed (item : OutlineItem) (h : item.Trimmed) {nested : Text}
    {lines : List Text} (hnested : nested.ReadsBack lines) {ordered : Bool} {number : Nat}
    (hnumber : item.number = if ordered then some number else none) (entries : List ListEntry) :
    listLines (Text.times (item.depth - 1) c.indent) ordered number
        (⟨ofText (item.text c ++ ['\n']), ofText nested⟩ :: entries) =
      (item.print c :: lines).map ofText ++
        listLines (Text.times (item.depth - 1) c.indent) ordered (number + 1) entries := by
  have hmarker : listMarker ordered number = item.marker := by
    rw [OutlineItem.marker, hnumber]
    cases ordered <;> rfl
  rw [listLines, trim_ofText, OutlineItem.trim_text h, hnested.filter_lines, hmarker,
    ← ofText_append, ← OutlineItem.print, List.map_cons]

/-- The lists among the children are not lines of the item. -/
theorem sourceLines_cons_of_isList {node : Node} (h : node.isList) (nodes : List Node) :
    sourceLines (node :: nodes) = sourceLines nodes := by
  obtain ⟨kind, children⟩ := node
  cases kind with
  | list shape => rfl
  | _ => cases h

/-- The lines of an outline are read as they are. -/
theorem stable_of_mem_outline (hindent : '\n' ∉ c.indent) (depth : Nat) (node : Node) :
    ∀ line ∈ (outline depth node).map (·.print c), Stable line := by
  intro line hline
  obtain ⟨item, hitem, rfl⟩ := List.mem_map.1 hline
  have htrimmed : item.Trimmed := forall_mem_outline
    (fun _ _ _ _ _ hline => framed_of_mem_sourceLines hline) depth node item hitem
  exact OutlineItem.stable_print htrimmed hindent

mutual

/-- A list is rendered to the lines of its outline. -/
theorem yields_renderIn_outline (hindent : '\n' ∉ c.indent)
    (hpending : s.footnotes.pending = []) (tight : Bool) (level : Nat) {node : Node}
    (hlist : node.isList) (h : everywhere fitsOutline node) :
    Yields (renderIn (gemtextRenderer c) tight level node) s
      (ofText (outlineText c (outline (level + 1) node))) s := by
  obtain ⟨kind, items⟩ := node
  cases kind with
  | list shape =>
    obtain ⟨hkinds, hitems⟩ := everywhere_mk.1 h
    obtain ⟨entries, hentries, hlines⟩ :=
      exists_yields_renderItems_outline hindent hpending shape.tight (level + 1) hkinds hitems
    rw [renderIn, yields_bind]
    refine ⟨entries, s, hentries, yields_liftM.2 (congrArg (·, s) ?_)⟩
    rw [Render.list, hlines, joinWith_map_ofText, ← ofText_append]
    rfl
  | _ => cases hlist

/-- Items are rendered to the lines of their outlines. -/
theorem exists_yields_renderItems_outline (hindent : '\n' ∉ c.indent)
    (hpending : s.footnotes.pending = []) (tight : Bool) (level : Nat) {items : List Node}
    (hkinds : items.all (·.kind.isItem)) (h : everywhereAll fitsOutline items) :
    ∃ entries, Yields (renderItems (gemtextRenderer c) tight level items) s entries s ∧
      ∀ ordered number, listLines (Text.times (level - 1) c.indent) ordered number entries =
        ((outlineItems level (if ordered then some number else none) items).map
          (·.print c)).map ofText := by
  cases items with
  | nil => exact ⟨[], yields_renderItems_nil.2 ⟨rfl, rfl⟩, fun _ _ => rfl⟩
  | cons item items =>
    obtain ⟨kind, children⟩ := item
    obtain ⟨hitem, hothers⟩ := everywhereAll_cons.1 h
    obtain ⟨hfits, hchildren⟩ := everywhere_mk.1 hitem
    rw [List.all_cons, Bool.and_eq_true] at hkinds
    have hparts : children.all (·.kind.isItemPart) := by
      cases kind with
      | item | taskItem => exact hfits
      | _ => cases hkinds.1
    -- the lists within the item are text by now, and their lines are read back from it
    obtain ⟨parts, nested, hparts, hspells, hnested, hreads⟩ :=
      exists_yields_renderItemParts_outline hindent hpending tight level hparts hchildren
    obtain ⟨entries, hentries, hlines⟩ :=
      exists_yields_renderItems_outline hindent hpending tight level hkinds.2 hothers
    let item (number : Option Nat) : OutlineItem :=
      ⟨level, number, kind.checked?, sourceLines children⟩
    have hcall := itemCall_of_spells (c := c) (s := s) (item none) hspells hkinds.1 rfl level
    refine ⟨_, yields_renderItems_cons.2 ⟨parts, s, hparts, _, s, hcall, entries, hentries, rfl⟩,
      fun ordered number => ?_⟩
    rw [hnested]
    have hnext : (if ordered then some (number + 1) else none) =
        (if ordered then some number else none : Option Nat).map (· + 1) := by cases ordered <;> rfl
    -- the number is no part of the text
    calc _ = (((item (if ordered then some number else none)).print c ::
            (outlineNested level children).map (·.print c)).map ofText) ++
          listLines (Text.times (level - 1) c.indent) ordered (number + 1) entries :=
        listLines_cons_of_trimmed (item (if ordered then some number else none))
          (fun _ hline => framed_of_mem_sourceLines hline) hreads rfl entries
      _ = _ := by
        rw [hlines, hnext, outlineItems]
        simp only [List.map_cons, List.map_append, item]

/-- The children of an item are rendered to its lines, and to those of the lists within it. -/
theorem exists_yields_renderItemParts_outline (hindent : '\n' ∉ c.indent)
    (hpending : s.footnotes.pending = []) (tight : Bool) (level : Nat) {nodes : List Node}
    (hkinds : nodes.all (·.kind.isItemPart)) (h : everywhereAll fitsOutline nodes) :
    ∃ parts text, Yields (renderItemParts (gemtextRenderer c) tight level nodes) s parts s ∧
      parts.content.Spells (sourceLines nodes) ∧ parts.nested = ofText text ∧
        text.ReadsBack ((outlineNested level nodes).map (·.print c)) := by
  cases nodes with
  | nil => exact ⟨⟨[], []⟩, [], yields_renderItemParts_nil.2 ⟨rfl, rfl⟩, .nil, rfl, .nil⟩
  | cons node nodes =>
    obtain ⟨hnode, hothers⟩ := everywhereAll_cons.1 h
    rw [List.all_cons, Bool.and_eq_true] at hkinds
    obtain ⟨others, text, hyields, hspells, hnested, hreads⟩ :=
      exists_yields_renderItemParts_outline hindent hpending tight level hkinds.2 hothers
    cases hlist : node.isList with
    | true =>
      have hrender := yields_renderIn_outline hindent hpending tight level hlist hnode
      refine ⟨_, outlineText c (outline (level + 1) node) ++ text,
        yields_renderItemParts_cons.2 ⟨_, s, hrender, others, hyields, rfl⟩, ?_, ?_, ?_⟩
      · rw [addPart, if_pos hlist, sourceLines_cons_of_isList hlist]
        exact hspells
      · rw [addPart, if_pos hlist, ofText_append, hnested]
      · rw [outlineNested, List.map_append]
        exact (ReadsBack.of_stable (stable_of_mem_outline hindent _ node)).append hreads
    | false =>
      -- an item holds nothing but lists and paragraphs
      obtain ⟨kind, children⟩ := node
      cases kind with
      | paragraph =>
        obtain ⟨content, hcontent, hlines⟩ :=
          yields_renderIn_paragraph hpending tight level (everywhere_mk.1 hnode).1
        refine ⟨_, text, yields_renderItemParts_cons.2 ⟨content, s, hcontent, others, hyields, rfl⟩,
          ?_, hnested, hreads⟩
        exact hlines.append hspells
      | list => cases hlist
      | _ => cases hkinds.1

end

/-- The lines of a list with items are those of its outline and two empty ones. -/
theorem splitOn_outlineText (hindent : '\n' ∉ c.indent) (depth : Nat) {node : Node}
    (hlist : node.isList) (hitems : node.children ≠ []) :
    Text.splitOn '\n' (outlineText c (outline depth node)) =
      (outline depth node).map (·.print c) ++ [[], []] := by
  -- a list with an item has a line
  have hne : (outline depth node).map (·.print c) ≠ [] := by
    obtain ⟨kind, items⟩ := node
    cases kind with
    | list shape =>
      cases items with
      | nil => exact absurd rfl hitems
      | cons item items =>
        obtain ⟨kind, children⟩ := item
        exact List.cons_ne_nil _ _
    | _ => cases hlist
  have hstable := stable_of_mem_outline hindent depth node
  rw [outlineText, Text.splitOn_append_cons,
    Text.splitOn_joinWith hne fun line hline => (hstable line hline).newline]
  rfl

/-- A list, with all lists within it, is rendered to one line an item and a blank one: each item's
line holds its indent, its marker, its box and its text, and stands before those of the lists within
the item.  Whether lists are tight makes no difference, and the lines of a list within an item are
what they are without the lists around it. -/
theorem renderIn_list (c : Conversion) (hindent : '\n' ∉ c.indent)
    (hpending : s.footnotes.pending = []) (tight : Bool) (level : Nat) {node : Node}
    (hlist : node.isList) (houtlined : node.isOutlined) (hitems : node.children ≠ []) :
    ∃ text, Text.splitOn '\n' text = (outline (level + 1) node).map (·.print c) ++ [[], []] ∧
      Yields (renderIn (gemtextRenderer c) tight level node) s (ofText text) s ∧
      (∀ other : Node, other.loosened = node.loosened →
        Yields (renderIn (gemtextRenderer c) tight level other) s (ofText text) s) ∧
      ∀ item ∈ node.children, ∀ nested ∈ item.children,
        (outline (level + 2) nested).map (·.print c) <:+:
          (outline (level + 1) node).map (·.print c) := by
  refine ⟨outlineText c (outline (level + 1) node), splitOn_outlineText hindent _ hlist hitems,
    yields_renderIn_outline hindent hpending tight level hlist houtlined, fun other hother => ?_,
    fun item hitem nested hnested => (outline_isInfix hlist hitem hnested).map _⟩
  have hlist' : other.isList := by rw [← isList_loosened, hother, isList_loosened, hlist]
  have houtlined' : other.isOutlined := by
    rw [← isOutlined_loosened, hother, isOutlined_loosened, houtlined]
  -- the outline is that of the loose list, and so is the other one's
  rw [← outline_loosened, ← hother, outline_loosened]
  exact yields_renderIn_outline hindent hpending tight level hlist' houtlined'

/-- A numbered list with a list of boxes within it, a line break and an item without text. -/
theorem renderIn_list_sample :
    let boxes := mk (.list ⟨false, true, 0⟩) [
      mk (.taskItem (some 'x')) [mk .paragraph [mk (.text ['c']) [], mk .lineBreak []]],
      mk (.taskItem none) []]
    let numbered := mk (.list ⟨true, false, 3⟩) [
      mk .item [
        mk .paragraph [mk (.text " a".toList) [], mk .softBreak [], mk (.text "b ".toList) []],
        boxes],
      mk .item []]
    '\n' ∉ Conversion.standard.indent ∧ RenderState.initial.footnotes.pending = [] ∧
      numbered.isList ∧ numbered.isOutlined ∧ numbered.children ≠ [] ∧
      ∃ text, Text.splitOn '\n' text =
          ["3. a b".toList, "  * ■ c".toList, "  * □".toList, "4. ".toList, [], []] ∧
        Yields (renderIn (gemtextRenderer .standard) false 0 numbered) .initial (ofText text)
          .initial := by
  intro boxes numbered
  have hpending : RenderState.initial.footnotes.pending = [] := rfl
  have hlist : numbered.isList := rfl
  have houtlined : numbered.isOutlined := rfl
  have hitems : numbered.children ≠ [] := List.cons_ne_nil _ _
  -- the lines of the inner list are indented, and the blank item keeps its number
  obtain ⟨text, hlines, hyields, -⟩ :=
    renderIn_list .standard (by decide) hpending false 0 hlist houtlined hitems
  exact ⟨by decide, hpending, hlist, houtlined, hitems, text, hlines.trans (by decide), hyields⟩

end Node

end Markdown

end Gemtext
