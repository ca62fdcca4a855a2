import Gemtext.Standard.Library
import Gemtext.Proofs.Render.Numbering
import Gemtext.Proofs.Render.ReadLinks

/-!
# Links that are repeated

Where links are copied, the text of a link stays where it is and its link line follows: with those
of the other links that wait, or in place of a paragraph that is nothing but this link.  The
footnote that is kept until then has the target in place of a missing label, and the two ways to
write the link line guess from it whether there was one.

The footnotes that wait are always those of the last links (`exists_waiting_stateAfter`), so each
link line can be compared with the one that its link is where links stand on lines of their own.
It is the same if the link has a label, where it follows, and if the label is not the target, where
it replaces a paragraph (`repeats_links`).  A bare address has no label, and is written twice
(`copies_bare_address`).
-/

namespace Gemtext

open Render

/-- A link with what the renderer is given of it. -/
structure LinkCall where
  url : Text
  content : Content
  inner : Text

namespace LinkCall

variable (c : Conversion) (l : LinkCall)

/-- Where the link leads. -/
def target : Text :=
  c.resolveTarget l.url.trim

/-- The label of the link, if it has one of its own. -/
def label? : Option Text :=
  linkLabel? l.url.trim l.content l.inner

/-- The link line of the link. -/
def line : LinkLine :=
  .ofTrimmed (l.target c) l.label?

/-- The footnote that is kept of the link. -/
def footnote : Footnote :=
  ⟨l.target c, l.label?.getD (l.target c)⟩

/-- The link line that follows with those of the other links that wait. -/
def copiedLine : LinkLine :=
  .ofTrimmed (l.footnote c).url (some (l.footnote c).text)

/-- The link line that replaces a paragraph. -/
def aloneLine : LinkLine :=
  plainLine (l.footnote c)

end LinkCall

/-- The link that the call keeps a footnote of. -/
def Callback.linkCall? : Callback → Option LinkCall
  | .link url content inner =>
    if url.trim.head? = some '#' then none else some ⟨url, content, inner⟩
  | _ => none

/-- Whether the call may hand out the link lines of footnotes. -/
def Callback.handsOut : Callback → Bool
  | paragraph _ | heading .. | renderFootnotes | finish => true
  | _ => false

/-- The link lines that follow some links. -/
def copiedLines (c : Conversion) (links : List LinkCall) : Content :=
  links.map fun l => .link (l.copiedLine c)

/-- What a call in state `s` answers while links wait. -/
inductive Repeats (c : Conversion) (s : RenderState) (waiting : List LinkCall) :
    Callback → Except TableError Content → Prop where
  | paragraph {content} (hnone : waiting = []) :
    Repeats c s waiting (.paragraph content) (.ok (paragraphRegion content))
  | paragraphLines {content} (hsome : waiting ≠ []) :
    Repeats c s waiting (.paragraph content)
      (.ok (paragraphRegion content ++ paragraphRegion (copiedLines c waiting)))
  /-- The paragraph is nothing but the text of the link. -/
  | alone {content} (l : LinkCall) (hsingle : waiting = [l])
      (htext : content.plainText.trim = (l.footnote c).text) :
    Repeats c s waiting (.paragraph content)
      (.ok (paragraphRegion (.link (l.aloneLine c) :: content.linkLines)))
  | heading {content level} (hnone : s.headingMark = 0) :
    Repeats c s waiting (.heading content level) (.ok (headingLine content level))
  /-- Those that waited when the heading began come before it. -/
  | headingLines {content level} (hsome : 0 < s.headingMark) :
    Repeats c s waiting (.heading content level)
      (.ok (paragraphRegion (copiedLines c (waiting.take s.headingMark)) ++
        headingLine content level))
  | renderFootnotes : Repeats c s waiting .renderFootnotes (.ok (copiedLines c waiting))
  | finish : Repeats c s waiting .finish (.ok (copiedLines c waiting))
  /-- All other answers are the same whatever waits. -/
  | other {call answer} (hother : call.handsOut = false)
      (hsame : ∀ footnotes, (call.run c { s with footnotes }).1 = answer) :
    Repeats c s waiting call answer

/-! ## The links that wait -/

section

variable {c : Conversion} (hmode : c.links = .copy) {s : RenderState} {waiting : List LinkCall}

/-- The link lines of footnotes that are kept of links. -/
theorem footnoteLines_copy (first : Nat) (links : List LinkCall) :
    footnoteLines .copy first (links.map (LinkCall.footnote c)) = copiedLines c links := by
  have hline (number : Nat) (note : Footnote) :
      footnoteLine .copy number note = .ofTrimmed note.url (some note.text) := rfl
  simp only [footnoteLines, hline]
  rw [copiedLines]
  induction links generalizing first with
  | nil => rfl
  | cons l links ih =>
    rw [List.map_cons, List.zipIdx_cons, List.map_cons, List.map_cons, ih]
    rfl

include hmode

/-- The oldest links that wait are handed out. -/
theorem flushFootnotes_copy (hs : s.footnotes.pending = waiting.map (LinkCall.footnote c))
    (limit : Nat) :
    flushFootnotes c limit s =
      (copiedLines c (waiting.take limit), { s with footnotes := s.footnotes.drop limit }) := by
  have huses : c.links.usesFootnotes := by rw [hmode]; rfl
  rw [flushFootnotes, if_pos huses, Footnotes.oldest, hs, ← List.map_take, hmode,
    footnoteLines_copy]

/-- All links that wait are handed out. -/
theorem renderFootnotes_copy (hs : s.footnotes.pending = waiting.map (LinkCall.footnote c)) :
    renderFootnotes c s =
      (copiedLines c waiting,
        { s with footnotes := s.footnotes.drop s.footnotes.pending.length }) := by
  rw [renderFootnotes, flushFootnotes_copy hmode hs, hs, List.length_map, List.take_length]

/-- A link joins those that wait. -/
theorem repeats_link (hs : s.footnotes.pending = waiting.map (LinkCall.footnote c))
    (url : Text) (content : Content) (inner : Text) :
    Repeats c s waiting (.link url content inner) (.ok (link c url content inner s).1) ∧
      (link c url content inner s).2.footnotes.pending =
        (waiting ++ (Callback.link url content inner).linkCall?.toList).map
          (LinkCall.footnote c) := by
  by_cases hanchor : url.trim.head? = some '#'
  · -- an anchor is no footnote
    refine ⟨.other rfl fun footnotes => ?_, ?_⟩
    · show Except.ok (link c url content inner _).1 = _
      simp only [link, hanchor, decide_true, Bool.true_or, if_true]
    · simp only [link, Callback.linkCall?, hanchor, decide_true, Bool.true_or, if_true, hs,
        Option.toList_none, List.append_nil]
  · -- any other link is kept, and its text is shown
    have hrun (s : RenderState) : link c url content inner s =
        (Content.ofText (LinkCall.footnote c ⟨url, content, inner⟩).text ++ content.linkLines,
          { s with
            footnotes := s.footnotes.register (LinkCall.footnote c ⟨url, content, inner⟩) }) := by
      simp only [link, hanchor, hmode, decide_false, if_true]
      rfl
    refine ⟨.other rfl fun footnotes => ?_, ?_⟩
    · show Except.ok (link c url content inner _).1 = _
      rw [hrun, hrun]
    · rw [hrun, Callback.linkCall?, if_neg hanchor, List.map_append, ← hs]
      rfl

/-- A paragraph hands out all links that wait; it may be one of them itself. -/
theorem repeats_paragraph (hs : s.footnotes.pending = waiting.map (LinkCall.footnote c))
    (content : Content) :
    Repeats c s waiting (.paragraph content) (.ok (paragraph c content s).1) ∧
      (paragraph c content s).2.footnotes.pending = [] := by
  cases hsingle : isSingleLink c s.footnotes content.plainText.trim with
  | true =>
    -- only one link waits, and the paragraph reads like it
    obtain ⟨l, hwaiting, htext⟩ :
        ∃ l, waiting = [l] ∧ content.plainText.trim = (l.footnote c).text := by
      rw [isSingleLink, hs, hmode] at hsingle
      match waiting, hsingle with
      | [l], hsingle => exact ⟨l, rfl, beq_iff_eq.1 hsingle⟩
    have hdemote : s.footnotes.demote? = some (l.footnote c, ⟨s.footnotes.counter - 1, []⟩) := by
      rw [Footnotes.demote?_eq_some, hs, hwaiting]
      exact ⟨rfl, rfl⟩
    simp only [paragraph, hsingle, if_true, hdemote]
    exact ⟨.alone l hwaiting htext, trivial⟩
  | false =>
    have hscoped : c.links.isParagraphScoped := by rw [hmode]; rfl
    simp only [paragraph, hsingle, Bool.false_eq_true, if_false, hscoped, Bool.true_and]
    cases waiting with
    | nil =>
      have hnone : s.footnotes.pending.isEmpty := by rw [hs]; rfl
      simp only [hnone, Bool.not_true, Bool.false_eq_true, if_false]
      exact ⟨.paragraph rfl, List.isEmpty_iff.1 hnone⟩
    | cons l links =>
      have hsome : s.footnotes.pending.isEmpty = false := by rw [hs]; rfl
      simp only [hsome, Bool.not_false, if_true, renderFootnotes_copy hmode hs]
      exact ⟨.paragraphLines (List.cons_ne_nil l links), List.drop_length⟩

/-- A heading hands out the links that waited when it began. -/
theorem repeats_heading (hs : s.footnotes.pending = waiting.map (LinkCall.footnote c))
    (content : Content) (level : Nat) :
    Repeats c s waiting (.heading content level) (.ok (heading c content level s).1) ∧
      (heading c content level s).2.footnotes.pending =
        (waiting.drop s.headingMark).map (LinkCall.footnote c) := by
  have hscoped : c.links.isParagraphScoped := by rw [hmode]; rfl
  unfold heading
  -- links of the heading only keep waiting, and the others are handed out
  rcases Nat.eq_zero_or_pos s.headingMark with hmark | hmark
  · simp only [hmark, Nat.lt_irrefl, decide_false, Bool.and_false, Bool.false_eq_true, if_false,
      List.drop_zero]
    exact ⟨.heading hmark, hs⟩
  · have hbefore : ({ s with headingMark := 0 } : RenderState).footnotes.pending =
        waiting.map (LinkCall.footnote c) := hs
    simp only [hscoped, hmark, decide_true, Bool.and_true, if_true,
      flushFootnotes_copy hmode hbefore]
    refine ⟨.headingLines hmark, ?_⟩
    rw [List.map_drop, ← hs]
    rfl

/-- A call repeats links that wait, and those that wait after it are the last ones. -/
theorem repeats_run (hs : s.footnotes.pending = waiting.map (LinkCall.footnote c))
    (call : Callback) :
    Repeats c s waiting call (call.run c s).1 ∧
      ∃ rest, rest <:+ waiting ++ call.linkCall?.toList ∧
        (call.run c s).2.footnotes.pending = rest.map (LinkCall.footnote c) := by
  cases hquiet : call.isQuiet with
  | true =>
    -- a quiet call neither keeps nor hands out
    have hkept := (Callback.run_of_isQuiet hquiet c s s.footnotes).2
    refine ⟨.other ?_ fun footnotes => (Callback.run_of_isQuiet hquiet c s footnotes).1,
      waiting, ?_, by rw [hkept, hs]⟩
    · cases call <;> first | rfl | cases hquiet
    · have hnone : call.linkCall? = none := by cases call <;> first | rfl | cases hquiet
      rw [hnone]
      exact ⟨[], by simp⟩
  | false =>
    -- a call that keeps a link, or hands the waiting ones out
    cases call with
    | link url content inner =>
      obtain ⟨hrepeats, hpending⟩ := repeats_link hmode hs url content inner
      exact ⟨hrepeats, _, List.suffix_rfl, hpending⟩
    | paragraph content =>
      obtain ⟨hrepeats, hpending⟩ := repeats_paragraph hmode hs content
      exact ⟨hrepeats, [], List.nil_suffix, hpending⟩
    | heading content level =>
      obtain ⟨hrepeats, hpending⟩ := repeats_heading hmode hs content level
      exact ⟨hrepeats, _, by simpa [Callback.linkCall?] using List.drop_suffix _ _, hpending⟩
    | renderFootnotes =>
      have hrun : Callback.renderFootnotes.run c s =
          (.ok (renderFootnotes c s).1, (renderFootnotes c s).2) := rfl
      rw [hrun, renderFootnotes_copy hmode hs]
      exact ⟨.renderFootnotes, [], List.nil_suffix, List.drop_length⟩
    | finish =>
      have hrun : Callback.finish.run c s =
          (.ok (renderFootnotes c s).1, (renderFootnotes c s).2) := rfl
      rw [hrun, renderFootnotes_copy hmode hs]
      exact ⟨.finish, [], List.nil_suffix, List.drop_length⟩
    | _ => cases hquiet

/-- The footnotes that wait after some calls are those of the last links. -/
theorem exists_waiting_stateAfter
    (hs : s.footnotes.pending = waiting.map (LinkCall.footnote c)) (calls : List Callback) :
    ∃ rest, rest <:+ waiting ++ calls.filterMap Callback.linkCall? ∧
      (stateAfter c s calls).footnotes.pending = rest.map (LinkCall.footnote c) := by
  induction calls generalizing s waiting with
  | nil => exact ⟨waiting, by simp, hs⟩
  | cons call calls ih =>
    obtain ⟨-, between, hbetween, hpending⟩ := repeats_run hmode hs call
    obtain ⟨rest, hrest, hafter⟩ := ih hpending
    refine ⟨rest, hrest.trans ?_, hafter⟩
    -- the link of the first call comes before those of the others
    have hcalls : (call :: calls).filterMap Callback.linkCall? =
        call.linkCall?.toList ++ calls.filterMap Callback.linkCall? := by
      cases hcall : call.linkCall? <;> simp [hcall]
    rw [hcalls, ← List.append_assoc]
    obtain ⟨before, hbefore⟩ := hbetween
    exact ⟨before, by rw [← hbefore, List.append_assoc]⟩

end

/-! ## The link line of one link -/

namespace LinkCall

variable (c : Conversion) (l : LinkCall)

/-- Where it follows, a link line has the label of the link, or the target if there is none. -/
theorem copiedLine_eq_line_iff :
    l.copiedLine c = l.line c ↔ l.label? ≠ none ∨ (l.target c).trim = [] := by
  cases hlabel : l.label? with
  | none => simp [copiedLine, line, footnote, hlabel, LinkLine.ofTrimmed]
  | some label => simp [copiedLine, line, footnote, hlabel]

/-- In place of a paragraph, a link line has the label of the link unless it is the target. -/
theorem aloneLine_eq_line_iff :
    l.aloneLine c = l.line c ↔ l.label? ≠ some (l.target c) := by
  cases hlabel : l.label? with
  | none => simp [aloneLine, plainLine, line, footnote, hlabel]
  | some label =>
    by_cases htarget : label = l.target c
    · -- the label is there, and is left out
      have hframed : Text.Framed label := framed_linkLabel? hlabel
      have hline : l.line c = ⟨(l.target c).trim, some label⟩ := by
        rw [line, hlabel, LinkLine.ofTrimmed_eq fun _ h => Option.some.inj h ▸ hframed]
      rw [hline, htarget]
      simp [aloneLine, plainLine, footnote, hlabel, htarget, LinkLine.ofTrimmed]
    · simp [aloneLine, plainLine, line, footnote, hlabel, htarget]

end LinkCall

/-- Where links are copied, the link lines that any call hands out are those of the last links, in
order, and the link line of a link is the one that it is where links stand on lines of their own,
except in two cases: where it follows, a link without a label has its target for one, and in place
of a paragraph, a label that is the target is left out. -/
theorem repeats_links {c : Conversion} (hmode : c.links = .copy) (calls : List Callback) :
    (∃ waiting, waiting <:+ calls.filterMap Callback.linkCall? ∧
      (stateAfter c .initial calls).footnotes.pending = waiting.map (LinkCall.footnote c) ∧
      ∀ call, Repeats c (stateAfter c .initial calls) waiting call
        (call.run c (stateAfter c .initial calls)).1) ∧
      ∀ l : LinkCall, l.url.trim.head? ≠ some '#' →
        (∀ s, (link { c with links := .newline } l.url l.content l.inner s).1 =
          .link (l.line c) :: l.content.linkLines) ∧
        (l.copiedLine c = l.line c ↔ l.label? ≠ none ∨ (l.target c).trim = []) ∧
        (l.aloneLine c = l.line c ↔ l.label? ≠ some (l.target c)) := by
  refine ⟨?_, fun l hanchor => ⟨fun s => ?_, l.copiedLine_eq_line_iff c, l.aloneLine_eq_line_iff c⟩⟩
  · -- in the beginning no link waits
    have hinitial : RenderState.initial.footnotes.pending = [].map (LinkCall.footnote c) := rfl
    obtain ⟨waiting, hlast, hpending⟩ := exists_waiting_stateAfter hmode hinitial calls
    exact ⟨waiting, hlast, hpending, fun call => (repeats_run hmode hpending call).1⟩
  · rw [link_newline rfl hanchor]
    rfl

/-- A heading hands out the links that waited when it began, and leaves its own. -/
theorem repeats_links_heading :
    let c := { Conversion.standard with links := .copy }
    let link (name : Char) : Callback := .link ['u', name] (Content.ofText [name]) []
    let calls := [link 'a', link 'b', .enterHeading, link 'c']
    c.links = .copy ∧
      (heading c (Content.ofText ['c']) 1 (stateAfter c .initial calls)).1 =
        paragraphRegion [.link ⟨"ua".toList, some ['a']⟩, .link ⟨"ub".toList, some ['b']⟩] ++
          Content.ofText "# c\n\n".toList ∧
      (∃ waiting, waiting <:+ calls.filterMap Callback.linkCall? ∧
        (stateAfter c .initial calls).footnotes.pending = waiting.map (LinkCall.footnote c) ∧
        ∀ call, Repeats c (stateAfter c .initial calls) waiting call
          (call.run c (stateAfter c .initial calls)).1) ∧
      ∀ l : LinkCall, l.url.trim.head? ≠ some '#' →
        (∀ s, (Render.link { c with links := .newline } l.url l.content l.inner s).1 =
          .link (l.line c) :: l.content.linkLines) ∧
        (l.copiedLine c = l.line c ↔ l.label? ≠ none ∨ (l.target c).trim = []) ∧
        (l.aloneLine c = l.line c ↔ l.label? ≠ some (l.target c)) := by
  intro c link calls
  -- the links before the heading are handed out above it, and its own one waits
  exact ⟨rfl, by decide, repeats_links rfl calls⟩

/-- A bare address has no label where links stand on lines of their own.  Where links are copied,
the link line that follows has the address for a label. -/
theorem copies_bare_address :
    let c := { Conversion.standard with links := .copy }
    let address := "gemini://x".toList
    (Render.link { c with links := .newline } address (Content.ofText address) address .initial).1 =
        [.link ⟨address, none⟩] ∧
      (finish c
        (stateAfter c .initial [.link address (Content.ofText address) address])).1 =
        [.link ⟨address, some address⟩] := by
  decide

end Gemtext
