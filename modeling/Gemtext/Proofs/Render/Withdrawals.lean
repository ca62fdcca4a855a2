import Gemtext.Standard.Library
import Gemtext.Proofs.Render.Frame
import Gemtext.Proofs.Render.Numbering

/-!
# Which footnote a paragraph withdraws

A paragraph that reads like the reference to the only footnote that waits is replaced by its link
line, and the number is given back.  `Markdown.Node.traceIn` follows a walk and keeps the
references that remain in the content and the paragraphs that were replaced.

The footnote that is withdrawn is the last one that the paragraph refers to, if it refers to any.
But a paragraph without a link withdraws a footnote as well, if one waited before it and its text
happens to be the same (`withdraws_heading_link`).  Then the reference stays where it is, and its
number is given out again.  As long as that does not happen, no number is given out twice
(`withdrawals_traced`).
-/

namespace Gemtext

/-- A paragraph that was replaced by the link line of a footnote. -/
structure Withdrawal where
  /-- The footnotes before the paragraph was rendered. -/
  before : Footnotes
  /-- The references in the content of the paragraph, with their numbers. -/
  inside : List (Footnote × Nat)
  /-- The text of the paragraph. -/
  text : Text
  /-- The footnote that was withdrawn. -/
  note : Footnote
  /-- The number that was given back. -/
  number : Nat

/-- What a walk does to the footnotes. -/
structure FootnoteTrace where
  /-- The references that remain in the content, with their numbers.  With a paragraph that is
  replaced, the references in it are gone. -/
  references : List (Footnote × Nat)
  /-- The paragraphs that were replaced, in order. -/
  withdrawals : List Withdrawal

namespace FootnoteTrace

/-- No reference and no withdrawal. -/
def nil : FootnoteTrace := ⟨[], []⟩

/-- One trace after the other. -/
def append (t u : FootnoteTrace) : FootnoteTrace :=
  ⟨t.references ++ u.references, t.withdrawals ++ u.withdrawals⟩

/-- The numbers of the references. -/
def numbers (t : FootnoteTrace) : List Nat :=
  t.references.map Prod.snd

end FootnoteTrace

namespace Render

/-- The text of a link that refers to a footnote. -/
def shownText (c : Conversion) (note : Footnote) (number : Nat) : Text :=
  if c.links = .copy then note.text else referenceText note number

/-- The footnote that a paragraph with the given content withdraws, and those that are left. -/
def withdrawn? (c : Conversion) (f : Footnotes) (content : Content) :
    Option (Footnote × Footnotes) :=
  if isSingleLink c f content.plainText.trim then f.demote? else none

end Render

namespace Markdown

namespace Node

open Render

/-- The trace of a container.  `before` are the footnotes before its children are rendered, `t` is
the trace of the children, and `content` and `s` are what it closes over. -/
def closeTrace (c : Conversion) (tight : Bool) (kind : NodeKind) (children : List Node)
    (before : Footnotes) (content : Content) (s : RenderState) (t : FootnoteTrace) :
    FootnoteTrace :=
  match kind with
  | .paragraph =>
    if tight then t
    else
      match withdrawn? c s.footnotes content with
      | some (note, _) =>
        ⟨[], t.withdrawals ++
          [⟨before, t.references, content.plainText.trim, note, s.footnotes.counter⟩]⟩
      | none => t
  | .link url =>
    let after := (link c url content (innerTexts children) s).2.footnotes
    ⟨t.references ++ after.waiting.drop s.footnotes.pending.length, t.withdrawals⟩
  | _ => t

mutual

/-- The trace of a node that is rendered from the state `s`. -/
def traceIn (c : Conversion) (tight : Bool) (level : Nat) (s : RenderState) : Node → FootnoteTrace
  | mk kind children =>
    match kind with
    | .list shape => traceItems c shape.tight (level + 1) s children
    | .table alignments =>
      traceRows c (alignments.map ColumnAlignment.toAlignment) level s children
    | _ =>
      if isContainer kind then
        let opened := (openCall (gemtextRenderer c) kind s).2
        match (renderAll (gemtextRenderer c) level children).run opened with
        | (.ok content, s') =>
          closeTrace c tight kind children s.footnotes content s' (traceAll c level opened children)
        | (.error _, _) => .nil
      else .nil

/-- The trace of nodes one after the other. -/
def traceAll (c : Conversion) (level : Nat) (s : RenderState) : List Node → FootnoteTrace
  | [] => .nil
  | node :: nodes =>
    let s' := ((renderIn (gemtextRenderer c) false level node).run s).2
    (traceIn c false level s node).append (traceAll c level s' nodes)

/-- The trace of the items of a list. -/
def traceItems (c : Conversion) (tight : Bool) (level : Nat) (s : RenderState) :
    List Node → FootnoteTrace
  | [] => .nil
  | mk kind children :: items =>
    let s' := ((renderItems (gemtextRenderer c) tight level [mk kind children]).run s).2
    (traceItemParts c tight level s children).append (traceItems c tight level s' items)

/-- The trace of the children of an item. -/
def traceItemParts (c : Conversion) (tight : Bool) (level : Nat) (s : RenderState) :
    List Node → FootnoteTrace
  | [] => .nil
  | node :: nodes =>
    let s' := ((renderIn (gemtextRenderer c) tight level node).run s).2
    (traceIn c tight level s node).append (traceItemParts c tight level s' nodes)

/-- The trace of the rows of a table. -/
def traceRows (c : Conversion) (alignments : List Alignment) (level : Nat) (s : RenderState) :
    List Node → FootnoteTrace
  | [] => .nil
  | mk kind cells :: rows =>
    let s' := ((renderRows (gemtextRenderer c) alignments level [mk kind cells]).run s).2
    (traceCells c (kind = .tableRow true) alignments level s cells).append
      (traceRows c alignments level s' rows)

/-- The trace of the cells of a row. -/
def traceCells (c : Conversion) (isHead : Bool) (alignments : List Alignment) (level : Nat)
    (s : RenderState) : List Node → FootnoteTrace
  | [] => .nil
  | mk kind children :: cells =>
    let s' :=
      ((renderCells (gemtextRenderer c) isHead alignments level [mk kind children]).run s).2
    (traceAll c level s children).append (traceCells c isHead alignments.tail level s' cells)

end

/-- The trace of a container is that of its children, and what it does when it closes. -/
theorem traceIn_container {c : Conversion} {tight : Bool} {level : Nat} {s : RenderState}
    {kind : NodeKind} {children : List Node} (h : isContainer kind) :
    traceIn c tight level s (mk kind children) =
      let opened := (openCall (gemtextRenderer c) kind s).2
      match (renderAll (gemtextRenderer c) level children).run opened with
      | (.ok content, s') =>
        closeTrace c tight kind children s.footnotes content s' (traceAll c level opened children)
      | (.error _, _) => .nil := by
  cases kind <;> first | rfl | cases h

end Node

end Markdown

/-! ## What a trace tells -/

open Render

/-- What a paragraph withdraws is the only footnote that waits, and the paragraph reads like the
reference to it. -/
theorem Render.withdrawn?_eq_some {c : Conversion} {f rest : Footnotes} {content : Content}
    {note : Footnote} (h : withdrawn? c f content = some (note, rest)) :
    content.plainText.trim = shownText c note f.counter ∧ f.demote? = some (note, rest) := by
  unfold withdrawn? at h
  split at h
  · rename_i hsingle
    refine ⟨?_, h⟩
    obtain ⟨hpending, -⟩ := Footnotes.demote?_eq_some.1 h
    rw [isSingleLink, hpending] at hsingle
    unfold shownText
    cases hlinks : c.links <;> simp_all [referenceText]
  · cases h

/-- A withdrawal is told right: the paragraph reads like the reference to the footnote, which is the
last of those that waited before it and those that it refers to. -/
structure Withdrawal.Told (c : Conversion) (w : Withdrawal) : Prop where
  text : w.text = shownText c w.note w.number
  last : (w.before.waiting ++ w.inside).getLast? = some (w.note, w.number)

/-- The trace leads from the footnotes `f` to the footnotes `g`. -/
structure Tracks (c : Conversion) (f : Footnotes) (t : FootnoteTrace) (g : Footnotes) : Prop where
  counted : g.Counted
  /-- A footnote that waits did so before, or it belongs to a reference that remains. -/
  waiting : g.waiting <:+ f.waiting ++ t.references
  told : ∀ w ∈ t.withdrawals, w.Told c
  /-- If each paragraph withdraws a footnote of its own, the numbers rise. -/
  rising : (∀ w ∈ t.withdrawals, w.inside ≠ []) →
    f.counter ≤ g.counter ∧ (t.numbers).Pairwise (· < ·) ∧
      ∀ n ∈ t.numbers, f.counter < n ∧ n ≤ g.counter

namespace Tracks

variable {c : Conversion} {f g h : Footnotes} {t u : FootnoteTrace} {note : Footnote}

/-- Nothing is referred to, and nothing changes. -/
theorem refl (hf : f.Counted) : Tracks c f .nil f where
  counted := hf
  waiting := ⟨[], by simp [FootnoteTrace.nil]⟩
  told := by simp [FootnoteTrace.nil]
  rising _ :=
    ⟨Nat.le_refl _, by simp [FootnoteTrace.numbers, FootnoteTrace.nil],
      by simp [FootnoteTrace.numbers, FootnoteTrace.nil]⟩

/-- Traces lead on, one after the other. -/
theorem append (hfg : Tracks c f t g) (hgh : Tracks c g u h) : Tracks c f (t.append u) h where
  counted := hgh.counted
  waiting := by
    obtain ⟨before, hbefore⟩ := hfg.waiting
    refine hgh.waiting.trans ⟨before, ?_⟩
    rw [FootnoteTrace.append, ← List.append_assoc, ← List.append_assoc, hbefore]
  told w hw := (List.mem_append.1 hw).elim (hfg.told w) (hgh.told w)
  rising hown := by
    obtain ⟨hle, hrise, hbound⟩ := hfg.rising fun w hw => hown w (List.mem_append_left _ hw)
    obtain ⟨hle', hrise', hbound'⟩ := hgh.rising fun w hw => hown w (List.mem_append_right _ hw)
    have hnumbers : (t.append u).numbers = t.numbers ++ u.numbers := List.map_append
    rw [hnumbers]
    refine ⟨Nat.le_trans hle hle', ?_, fun n hn => ?_⟩
    · -- the numbers of the first trace end where those of the second begin
      refine List.pairwise_append.2 ⟨hrise, hrise', fun m hm n hn => ?_⟩
      exact Nat.lt_of_le_of_lt (hbound m hm).2 (hbound' n hn).1
    · rcases List.mem_append.1 hn with hn | hn
      · exact ⟨(hbound n hn).1, Nat.le_trans (hbound n hn).2 hle'⟩
      · exact ⟨Nat.lt_of_le_of_lt hle (hbound' n hn).1, (hbound' n hn).2⟩

/-- Handing out footnotes changes no number. -/
theorem drop (hfg : Tracks c f t g) (limit : Nat) : Tracks c f t (g.drop limit) where
  counted := by
    have hcounted := hfg.counted
    unfold Footnotes.Counted at hcounted ⊢
    simp only [Footnotes.drop, List.length_drop]
    omega
  waiting := by
    refine List.IsSuffix.trans ?_ hfg.waiting
    rw [Footnotes.waiting_eq_append_drop hfg.counted limit]
    exact List.suffix_append _ _
  told := hfg.told
  rising := hfg.rising

/-- A new reference has the next number. -/
theorem register (hfg : Tracks c f t g) (note : Footnote) :
    Tracks c f ⟨t.references ++ [(note, g.counter + 1)], t.withdrawals⟩ (g.register note) where
  counted := (Balanced.register hfg.counted note).counted
  waiting := by
    obtain ⟨before, hbefore⟩ := hfg.waiting
    rw [Footnotes.waiting_register hfg.counted]
    exact ⟨before, by rw [← List.append_assoc, hbefore, List.append_assoc]⟩
  told := hfg.told
  rising hown := by
    obtain ⟨hle, hrise, hbound⟩ := hfg.rising hown
    simp only [FootnoteTrace.numbers, List.map_append, List.map_cons, List.map_nil]
      at hrise hbound ⊢
    -- the new number is beyond all that were given
    have hcounter : (g.register note).counter = g.counter + 1 := rfl
    rw [hcounter]
    refine ⟨Nat.le_succ_of_le hle, ?_, fun n hn => ?_⟩
    · refine List.pairwise_append.2 ⟨hrise, List.pairwise_singleton _ _, fun m hm n hn => ?_⟩
      rw [List.mem_singleton.1 hn]
      exact Nat.lt_succ_of_le (hbound m hm).2
    · rcases List.mem_append.1 hn with hn | hn
      · exact ⟨(hbound n hn).1, Nat.le_succ_of_le (hbound n hn).2⟩
      · rw [List.mem_singleton.1 hn]
        omega

/-- A paragraph withdraws the last footnote that waits. -/
theorem withdraw {rest : Footnotes} {content : Content} (hfg : Tracks c f t g)
    (h : withdrawn? c g content = some (note, rest)) :
    Tracks c f ⟨[], t.withdrawals ++
      [⟨f, t.references, content.plainText.trim, note, g.counter⟩]⟩ rest := by
  obtain ⟨htext, hdemote⟩ := withdrawn?_eq_some h
  have hcounter := hfg.counted.counter_of_demote hdemote
  obtain ⟨hpending, hrest⟩ := Footnotes.demote?_eq_some.1 hdemote
  have hwaiting := Footnotes.waiting_of_demote hfg.counted hdemote
  have hlast : (f.waiting ++ t.references).getLast? = some (note, g.counter) := by
    obtain ⟨before, hbefore⟩ := hfg.waiting
    rw [← hbefore, hwaiting, List.getLast?_concat]
  constructor
  · rw [hrest]
    exact Nat.zero_le _
  · rw [hrest]
    exact List.nil_suffix
  · intro w hw
    rcases List.mem_append.1 hw with hw | hw
    · exact hfg.told w hw
    · rw [List.mem_singleton.1 hw]
      exact ⟨htext, hlast⟩
  · intro hown
    obtain ⟨hle, hrise, hbound⟩ := hfg.rising fun w hw => hown w (List.mem_append_left _ hw)
    have hinside : t.references ≠ [] := hown _ (List.mem_append_right _ (List.mem_singleton_self _))
    -- the number that is given back belongs to a reference in the paragraph
    have hmem : (note, g.counter) ∈ t.references := by
      rw [List.getLast?_append_of_ne_nil _ hinside] at hlast
      exact List.mem_of_getLast? hlast
    have hnumber := (hbound g.counter (List.mem_map.2 ⟨_, hmem, rfl⟩)).1
    exact ⟨by omega, by simp [FootnoteTrace.numbers], by simp [FootnoteTrace.numbers]⟩

/-- Handing out footnotes, in a mode that has some or not. -/
theorem flush {s : RenderState} (hfg : Tracks c f t s.footnotes) (limit : Nat) :
    Tracks c f t (flushFootnotes c limit s).2.footnotes := by
  unfold flushFootnotes
  split
  · exact hfg.drop limit
  · exact hfg

end Tracks

/-! ## The calls -/

namespace Render

open Markdown Node

variable {c : Conversion} {s : RenderState} {f : Footnotes} {t : FootnoteTrace} {content : Content}

/-- A paragraph may withdraw a footnote, and hands the others out. -/
theorem tracks_paragraph (hfg : Tracks c f t s.footnotes) :
    Tracks c f (closeTrace c false .paragraph [] f content s t)
      (paragraph c content s).2.footnotes := by
  have hsingle : (if isSingleLink c s.footnotes content.plainText.trim then s.footnotes.demote?
      else none) = withdrawn? c s.footnotes content := rfl
  simp only [closeTrace, paragraph, hsingle, Bool.false_eq_true, if_false]
  cases h : withdrawn? c s.footnotes content with
  | some withdrawn => exact hfg.withdraw h
  | none =>
    dsimp only
    split
    · exact hfg.flush s.footnotes.pending.length
    · exact hfg

/-- A heading hands out what waited before it. -/
theorem tracks_heading (hfg : Tracks c f t s.footnotes) (level : Nat) :
    Tracks c f t (heading c content level s).2.footnotes := by
  unfold heading
  split
  · have hmark : Tracks c f t { s with headingMark := 0 }.footnotes := hfg
    exact hmark.flush s.headingMark
  · exact hfg

/-- A link refers to the footnote that is kept of it. -/
theorem tracks_link (hfg : Tracks c f t s.footnotes) (tight : Bool) (url : Text)
    (children : List Node) :
    Tracks c f (closeTrace c tight (.link url) children f content s t)
      (link c url content (innerTexts children) s).2.footnotes := by
  have hlength : s.footnotes.waiting.length = s.footnotes.pending.length := List.length_zipIdx
  -- either the footnotes stay, or one is added behind those that wait
  obtain hsame | ⟨note, hnote⟩ :
      (link c url content (innerTexts children) s).2.footnotes = s.footnotes ∨
        ∃ note, (link c url content (innerTexts children) s).2.footnotes =
          s.footnotes.register note := by
    unfold link
    dsimp only
    split
    · exact .inl rfl
    · split
      · exact .inr ⟨_, rfl⟩
      · exact .inl rfl
  · have hnone : s.footnotes.waiting.drop s.footnotes.pending.length = [] := by
      rw [← hlength, List.drop_length]
    simp only [closeTrace, hsame, hnone, List.append_nil]
    exact hfg
  · have hone : (s.footnotes.register note).waiting.drop s.footnotes.pending.length =
        [(note, s.footnotes.counter + 1)] := by
      rw [Footnotes.waiting_register hfg.counted, ← hlength, List.drop_left]
    simp only [closeTrace, hnote, hone]
    exact hfg.register note

/-- Closing a node traces what it does to the footnotes. -/
theorem tracks_closeCall (hfg : Tracks c f t s.footnotes) (tight : Bool) (kind : NodeKind)
    (children : List Node) (content : Content) :
    Tracks c f (closeTrace c tight kind children f content s t)
      (closeCall (gemtextRenderer c) tight kind children content s).2.footnotes := by
  cases kind with
  | paragraph =>
    cases tight with
    | true => exact hfg
    | false => exact tracks_paragraph hfg
  | heading depth => exact tracks_heading hfg depth
  | link url => exact tracks_link hfg tight url children
  | _ => exact hfg

/-! ## The walk -/

mutual

/-- The trace of a node leads from the footnotes before it to those after it. -/
theorem tracks_renderIn {tight : Bool} {level : Nat} {node : Node} {s s' : RenderState}
    {content : Content} (hs : s.footnotes.Counted)
    (h : Yields (renderIn (gemtextRenderer c) tight level node) s content s') :
    Tracks c s.footnotes (traceIn c tight level s node) s'.footnotes := by
  obtain ⟨kind, children⟩ := node
  cases rendered_of_yields h with
  | leaf hleaf hcall =>
    have hstate : s' = s := by rw [← state_leafCall hleaf s, hcall]
    -- what has no children is no link
    have htrace : traceIn c tight level s (mk kind children) = .nil := by
      cases kind <;> first | rfl | cases hleaf
    rw [hstate, htrace]
    exact .refl hs
  | @container inner between hkind hinner hcall =>
    -- opening a node leaves the footnotes alone
    have hopen := footnotes_openCall c s kind
    have htracks := tracks_renderAll (by rwa [hopen]) hinner
    rw [hopen] at htracks
    have hclose := tracks_closeCall htracks tight kind children inner
    rw [hcall] at hclose
    have htrace : traceIn c tight level s (mk kind children) =
        closeTrace c tight kind children s.footnotes inner between
          (traceAll c level (openCall (gemtextRenderer c) kind s).2 children) := by
      have hrun : (renderAll (gemtextRenderer c) level children).run
          (openCall (gemtextRenderer c) kind s).2 = (.ok inner, between) := hinner
      rw [traceIn_container hkind]
      dsimp only
      rw [hrun]
    rw [htrace]
    exact hclose
  | @list shape entries between hlist hitems hcall =>
    subst hlist
    cases hcall
    exact tracks_renderItems hs hitems
  | @table alignments rows drawn between htable hrows hcall hcontent =>
    subst htable
    rw [footnotes_table hcall]
    exact tracks_renderRows hs hrows

/-- Nodes one after the other trace what they do to the footnotes. -/
theorem tracks_renderAll {level : Nat} {nodes : List Node} {s s' : RenderState}
    {content : Content} (hs : s.footnotes.Counted)
    (h : Yields (renderAll (gemtextRenderer c) level nodes) s content s') :
    Tracks c s.footnotes (traceAll c level s nodes) s'.footnotes := by
  cases nodes with
  | nil =>
    obtain ⟨-, rfl⟩ := yields_renderAll_nil.1 h
    exact .refl hs
  | cons node nodes =>
    obtain ⟨first, s₁, hfirst, others, hothers, rfl⟩ := yields_renderAll_cons.1 h
    have htracks := tracks_renderIn hs hfirst
    rw [traceAll, hfirst.state]
    exact htracks.append (tracks_renderAll htracks.counted hothers)

/-- So do the items of a list. -/
theorem tracks_renderItems {tight : Bool} {level : Nat} {items : List Node}
    {s s' : RenderState} {entries : List ListEntry} (hs : s.footnotes.Counted)
    (h : Yields (renderItems (gemtextRenderer c) tight level items) s entries s') :
    Tracks c s.footnotes (traceItems c tight level s items) s'.footnotes := by
  cases items with
  | nil =>
    obtain ⟨-, rfl⟩ := yields_renderItems_nil.1 h
    exact .refl hs
  | cons item items =>
    obtain ⟨kind, children⟩ := item
    obtain ⟨parts, s₁, hparts, content, s₂, hcall, others, hothers, rfl⟩ :=
      yields_renderItems_cons.1 h
    have htracks := tracks_renderItemParts hs hparts
    have hitem : s₂ = s₁ := by rw [← state_itemCall c s₁ kind parts.content level, hcall]
    rw [traceItems, state_renderItems_one hparts, hcall]
    rw [← hitem] at htracks
    exact htracks.append (tracks_renderItems htracks.counted hothers)

/-- So do the children of an item. -/
theorem tracks_renderItemParts {tight : Bool} {level : Nat} {nodes : List Node}
    {s s' : RenderState} {parts : ListEntry} (hs : s.footnotes.Counted)
    (h : Yields (renderItemParts (gemtextRenderer c) tight level nodes) s parts s') :
    Tracks c s.footnotes (traceItemParts c tight level s nodes) s'.footnotes := by
  cases nodes with
  | nil =>
    obtain ⟨-, rfl⟩ := yields_renderItemParts_nil.1 h
    exact .refl hs
  | cons node nodes =>
    obtain ⟨content, s₁, hcontent, others, hothers, rfl⟩ := yields_renderItemParts_cons.1 h
    have htracks := tracks_renderIn hs hcontent
    rw [traceItemParts, hcontent.state]
    exact htracks.append (tracks_renderItemParts htracks.counted hothers)

/-- So do the rows of a table. -/
theorem tracks_renderRows {alignments : List Alignment} {level : Nat} {rows : List Node}
    {s s' : RenderState} {content : Content} (hs : s.footnotes.Counted)
    (h : Yields (renderRows (gemtextRenderer c) alignments level rows) s content s') :
    Tracks c s.footnotes (traceRows c alignments level s rows) s'.footnotes := by
  cases rows with
  | nil =>
    obtain ⟨-, rfl⟩ := yields_renderRows_nil.1 h
    exact .refl hs
  | cons row rows =>
    obtain ⟨kind, children⟩ := row
    obtain ⟨cells, s₁, hcells, row, s₂, hcall, others, hothers, rfl⟩ := yields_renderRows_cons.1 h
    have htracks := tracks_renderCells hs hcells
    have hrow : s₂.footnotes = s₁.footnotes := by rw [← footnotes_rowCall c s₁ kind cells, hcall]
    rw [traceRows, state_renderRows_one hcells, hcall]
    rw [← hrow] at htracks
    exact htracks.append (tracks_renderRows htracks.counted hothers)

/-- So do the cells of a row. -/
theorem tracks_renderCells {isHead : Bool} {alignments : List Alignment} {level : Nat}
    {cells : List Node} {s s' : RenderState} {content : Content} (hs : s.footnotes.Counted)
    (h : Yields (renderCells (gemtextRenderer c) isHead alignments level cells) s content s') :
    Tracks c s.footnotes (traceCells c isHead alignments level s cells) s'.footnotes := by
  cases cells with
  | nil =>
    obtain ⟨-, rfl⟩ := yields_renderCells_nil.1 h
    exact .refl hs
  | cons cell cells =>
    obtain ⟨kind, children⟩ := cell
    obtain ⟨inner, s₁, hinner, cell, s₂, hcall, others, hothers, rfl⟩ :=
      yields_renderCells_cons.1 h
    have htracks := tracks_renderAll hs hinner
    have hcell : s₂.footnotes = s₁.footnotes := by
      cases hcall
      rfl
    rw [traceCells, state_renderCells_one hinner, hcall]
    rw [← hcell] at htracks
    exact htracks.append (tracks_renderCells htracks.counted hothers)

end

end Render

open Markdown Node in
/-- Each paragraph that a walk replaces reads like the reference to the footnote that it withdraws.
It is the last one that the paragraph refers to; a paragraph that refers to none withdraws the last
one that waited before it.  If each of them refers to one, no two references that remain have the
same number. -/
theorem withdrawals_traced {c : Conversion} {level : Nat} {tree : Node} {s s' : RenderState}
    {content : Content} (hs : s.footnotes.Counted)
    (h : (tree.render (gemtextRenderer c) level).run s = (.ok content, s')) :
    (∀ w ∈ (traceIn c false level s tree).withdrawals,
        w.text = shownText c w.note w.number ∧
          (w.inside ≠ [] → w.inside.getLast? = some (w.note, w.number)) ∧
          (w.inside = [] → w.before.waiting.getLast? = some (w.note, w.number))) ∧
      ((∀ w ∈ (traceIn c false level s tree).withdrawals, w.inside ≠ []) →
        (traceIn c false level s tree).numbers.Nodup) := by
  have htracks : Tracks c s.footnotes (traceIn c false level s tree) s'.footnotes :=
    tracks_renderIn hs h
  refine ⟨fun w hw => ?_, fun hown => ?_⟩
  · -- what is withdrawn is the last that was referred to, or the last that waited
    obtain ⟨htext, hlast⟩ := htracks.told w hw
    refine ⟨htext, fun hinside => ?_, fun hnone => ?_⟩
    · rwa [List.getLast?_append_of_ne_nil _ hinside] at hlast
    · rwa [hnone, List.append_nil] at hlast
  · exact (htracks.rising hown).2.1.imp Nat.ne_of_lt

open Markdown Node in
/-- A paragraph that is one link withdraws the footnote of that link, so the next one has its
number. -/
theorem withdrawals_traced_single :
    let c := { Conversion.standard with links := .paragraph }
    let single := Node.mk .paragraph [.mk (.link ['u']) [.mk (.text ['x']) []]]
    let other := Node.mk .paragraph [.mk (.text ['z']) [], .mk (.link ['v']) []]
    let t := traceIn c false 0 .initial (.mk .document [single, other])
    RenderState.initial.footnotes.Counted ∧
      t.withdrawals.map (·.inside) = [[(⟨['u'], ['x']⟩, 1)]] ∧
      t.references = [(⟨['v'], ['v']⟩, 1)] ∧
      (∀ w ∈ t.withdrawals,
        w.text = shownText c w.note w.number ∧
          (w.inside ≠ [] → w.inside.getLast? = some (w.note, w.number)) ∧
          (w.inside = [] → w.before.waiting.getLast? = some (w.note, w.number))) ∧
      ((∀ w ∈ t.withdrawals, w.inside ≠ []) → t.numbers.Nodup) := by
  intro c single other t
  have hcounted : RenderState.initial.footnotes.Counted := Nat.le_refl 0
  obtain ⟨content, s', hrun⟩ : ∃ content s',
      ((Node.mk .document [single, other]).render (gemtextRenderer c) 0).run .initial =
        (.ok content, s') := ⟨_, _, rfl⟩
  exact ⟨hcounted, by decide, by decide, withdrawals_traced hcounted hrun⟩

open Markdown Node in
/-- The text of a paragraph may be the same as the reference in a heading before it.  The paragraph
then withdraws the footnote of the heading, to which it does not refer, and a link behind it gets
the number that the heading still shows. -/
theorem withdraws_heading_link :
    let c := { Conversion.standard with links := .paragraph }
    let heading := Node.mk (.heading 1) [.mk (.link ['u']) [.mk (.text ['x']) []]]
    let plain := Node.mk .paragraph [.mk (.text "x[1]".toList) []]
    let other := Node.mk .paragraph
      [.mk (.text "see ".toList) [], .mk (.link ['v']) [.mk (.text ['y']) []]]
    let tree := Node.mk .document [heading, plain, other]
    let t := traceIn c false 0 .initial tree
    ¬(∀ w ∈ t.withdrawals, (w.note, w.number) ∈ w.inside) ∧ ¬t.numbers.Nodup ∧
      (renderTree c 0 tree).map Rendition.text =
        .ok "# x[1]\n\n=> u x\n\nsee y[1]\n\n=> v 1: v".toList := by
  intro c heading plain other tree t
  exact ⟨by decide, by decide, by decide +kernel⟩

end Gemtext
