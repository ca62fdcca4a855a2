import Gemtext.Standard.Library
import Gemtext.Proofs.Render.CopiedLinks
import Gemtext.Proofs.Render.Marks
import Gemtext.Proofs.Render.Withdrawals

/-!
# What waits before a heading

A heading hands out the footnotes that waited when it began.  Its own links have joined them when
its line is made, so it goes by the number that it remembered, and the numbers of the link lines are
worked out again from the counter, which its links have moved on.

A call registers a footnote, hands out the oldest ones or withdraws the only one
(`Footnotes.Step`), so those that wait are always the last that were registered
(`waiting_stateAfter_isSuffix`).  The calls that make a line do nothing but register
(`registers_stateAfter`), so that what waits at the heading is what waited before and what its line
registered, in this order.
-/

namespace Gemtext

open Render

namespace Callback

/-- Whether the call makes a part of a line. -/
def isInline : Callback → Bool
  | text _ | softBreak | lineBreak | emphasis _ | strong _ | code _ | htmlInline _ => true
  | link .. | image .. => true
  | _ => false

/-- The footnote that the call registers in state `s`, with its number. -/
def registered? (c : Conversion) (s : RenderState) (call : Callback) : Option (Footnote × Nat) :=
  call.linkCall?.map fun l => (l.footnote c, s.footnotes.counter + 1)

end Callback

/-- The footnotes that the calls register, made in turn from state `s`, with their numbers. -/
def registrations (c : Conversion) (s : RenderState) : List Callback → List (Footnote × Nat)
  | [] => []
  | call :: calls => (call.registered? c s).toList ++ registrations c (call.run c s).2 calls

/-- The link lines of footnotes with their numbers, in the given mode. -/
def linesOf (mode : LinkMode) (notes : List (Footnote × Nat)) : Content :=
  notes.map fun (note, number) => .link (footnoteLine mode number note)

/-! ## One call -/

/-- What a call does to the footnotes `f` that registers one of them, or none. -/
inductive Footnotes.Step (f : Footnotes) : Option (Footnote × Nat) → Footnotes → Prop where
  | register (note : Footnote) : Step f (some (note, f.counter + 1)) (f.register note)
  /-- Up to `limit` of the oldest are handed out, or all are kept. -/
  | drop (limit : Nat) : Step f none (f.drop limit)
  | withdraw {note : Footnote} {rest : Footnotes} (h : f.demote? = some (note, rest)) :
    Step f none rest

namespace Footnotes.Step

variable {f g : Footnotes} {registered? : Option (Footnote × Nat)}

theorem keep (f : Footnotes) : Step f none f :=
  .drop 0

/-- No step hands out more footnotes than were counted. -/
theorem counted (h : Step f registered? g) (hf : f.Counted) : g.Counted := by
  cases h with
  | register note => exact (Balanced.register hf note).counted
  | drop limit => exact (Balanced.drop hf limit).counted
  | withdraw h => exact (Balanced.demote hf h).counted

/-- Those that wait behind a call are the last ones. -/
theorem waiting_isSuffix (h : Step f registered? g) (hf : f.Counted) :
    g.waiting <:+ f.waiting ++ registered?.toList := by
  cases h with
  | register note =>
    rw [Footnotes.waiting_register hf]
    exact List.suffix_rfl
  | drop limit =>
    rw [Footnotes.waiting_eq_append_drop hf limit, Option.toList_none, List.append_nil]
    exact List.suffix_append _ _
  | withdraw h =>
    obtain ⟨-, rfl⟩ := Footnotes.demote?_eq_some.1 h
    exact List.nil_suffix

end Footnotes.Step

section

variable {c : Conversion} (hmode : c.links.usesFootnotes) {s : RenderState}
include hmode

/-- A link that leads out of the document shows its number and registers a footnote. -/
theorem link_eq_register {l : LinkCall} (h : l.url.trim.head? ≠ some '#') (s : RenderState) :
    link c l.url l.content l.inner s =
      (Content.ofText (shownText c (l.footnote c) (s.footnotes.counter + 1)) ++
          l.content.linkLines,
        { s with footnotes := s.footnotes.register (l.footnote c) }) := by
  have hoff : c.links ≠ .off := fun hoff => by rw [hoff] at hmode; cases hmode
  by_cases hcopy : c.links = .copy
  all_goals
    simp only [link, h, hoff, hmode, hcopy, shownText, decide_false, Bool.or_false,
      Bool.false_eq_true, if_true, if_false]
    rfl

/-- A call that makes a part of a line registers what it says, and leaves the state otherwise as it
is. -/
theorem state_of_isInline {call : Callback} (h : call.isInline) (s : RenderState) :
    (call.run c s).2 =
      match call.registered? c s with
      | some (note, _) => { s with footnotes := s.footnotes.register note }
      | none => s := by
  cases call with
  | link url content inner =>
    show (link c url content inner s).2 = _
    -- a link that leads elsewhere is registered
    by_cases hanchor : url.trim.head? = some '#'
    · simp [link, Callback.registered?, Callback.linkCall?, hanchor]
    · rw [link_eq_register (l := ⟨url, content, inner⟩) hmode hanchor, Callback.registered?,
        Callback.linkCall?, if_neg hanchor]
      rfl
  | text | softBreak | lineBreak | emphasis | strong | code | htmlInline | image => rfl
  | _ => cases h

/-- Flushing hands out the lines of the oldest footnotes. -/
theorem flushFootnotes_eq_linesOf (limit : Nat) (s : RenderState) :
    flushFootnotes c limit s =
      (linesOf c.links ((s.footnotes.oldest limit).zipIdx s.footnotes.first),
        { s with footnotes := s.footnotes.drop limit }) :=
  if_pos hmode

/-- A paragraph hands out what waits, or withdraws its only footnote. -/
theorem step_paragraph (content : Content) :
    Footnotes.Step s.footnotes none (paragraph c content s).2.footnotes := by
  have hsingle : (if isSingleLink c s.footnotes content.plainText.trim then s.footnotes.demote?
      else none) = withdrawn? c s.footnotes content := rfl
  simp only [paragraph, hsingle]
  cases h : withdrawn? c s.footnotes content with
  | some withdrawn => exact .withdraw (withdrawn?_eq_some h).2
  | none =>
    dsimp only
    split
    · rw [renderFootnotes, flushFootnotes_eq_linesOf hmode]
      exact .drop _
    · exact .keep _

/-- A heading hands out what waited before it. -/
theorem step_heading (content : Content) (level : Nat) :
    Footnotes.Step s.footnotes none (heading c content level s).2.footnotes := by
  unfold heading
  split
  · rw [flushFootnotes_eq_linesOf hmode]
    exact .drop _
  · exact .keep _

/-- The end of the document hands out all that waits. -/
theorem step_renderFootnotes :
    Footnotes.Step s.footnotes none (renderFootnotes c s).2.footnotes := by
  rw [renderFootnotes, flushFootnotes_eq_linesOf hmode]
  exact .drop _

/-- Every call takes such a step. -/
theorem step_run (call : Callback) :
    Footnotes.Step s.footnotes (call.registered? c s) (call.run c s).2.footnotes := by
  by_cases hinline : call.isInline
  · rw [state_of_isInline hmode hinline]
    cases hlink : call.linkCall? with
    | none => simpa [Callback.registered?, hlink] using Footnotes.Step.keep s.footnotes
    | some l => simpa [Callback.registered?, hlink] using Footnotes.Step.register (l.footnote c)
  · cases call with
    | paragraph content => exact step_paragraph hmode content
    | heading content level => exact step_heading hmode content level
    | renderFootnotes | finish => exact step_renderFootnotes hmode
    | link | text | softBreak | lineBreak | emphasis | strong | code | htmlInline | image =>
      exact absurd rfl hinline
    | _ =>
      -- the other calls are quiet
      rw [(Callback.run_of_isQuiet rfl c s s.footnotes).2]
      exact .keep _

/-! ## All calls -/

/-- After any calls, no more footnotes wait than were counted. -/
theorem counted_stateAfter (hs : s.footnotes.Counted) (calls : List Callback) :
    (stateAfter c s calls).footnotes.Counted := by
  induction calls generalizing s with
  | nil => exact hs
  | cons call calls ih => exact ih ((step_run hmode call).counted hs)

/-- The footnotes that wait are the last that were registered, with the same numbers. -/
theorem waiting_stateAfter_isSuffix (hs : s.footnotes.Counted) (calls : List Callback) :
    (stateAfter c s calls).footnotes.waiting <:+
      s.footnotes.waiting ++ registrations c s calls := by
  induction calls generalizing s with
  | nil =>
    rw [registrations, List.append_nil]
    exact List.suffix_rfl
  | cons call calls ih =>
    -- what the first call leaves is the end of what waited and what it registered
    have hcall : Footnotes.Step s.footnotes (call.registered? c s) (call.run c s).2.footnotes :=
      step_run hmode call
    obtain ⟨before, hbefore⟩ := hcall.waiting_isSuffix hs
    refine (ih (hcall.counted hs)).trans ⟨before, ?_⟩
    rw [← List.append_assoc, hbefore, registrations, List.append_assoc]

end

/-! ## The calls that make a line -/

/-- The state `s'` is the state `s` with these footnotes registered. -/
structure Registers (s : RenderState) (notes : List (Footnote × Nat)) (s' : RenderState) :
    Prop where
  headingMark : s'.headingMark = s.headingMark
  waiting : s'.footnotes.waiting = s.footnotes.waiting ++ notes

namespace Registers

variable {s s₁ s₂ : RenderState} {notes more : List (Footnote × Nat)}

theorem refl (s : RenderState) : Registers s [] s :=
  ⟨rfl, (List.append_nil _).symm⟩

theorem trans (h : Registers s notes s₁) (h' : Registers s₁ more s₂) :
    Registers s (notes ++ more) s₂ :=
  ⟨h'.headingMark.trans h.headingMark, by rw [h'.waiting, h.waiting, List.append_assoc]⟩

end Registers

section

variable {c : Conversion} (hmode : c.links.usesFootnotes) {s : RenderState}
include hmode

/-- Inline calls hand nothing out. -/
theorem registers_run (hs : s.footnotes.Counted) {call : Callback} (h : call.isInline) :
    Registers s (call.registered? c s).toList (call.run c s).2 := by
  rw [state_of_isInline hmode h]
  cases hlink : call.linkCall? with
  | none => simpa [Callback.registered?, hlink] using Registers.refl s
  | some l =>
    have hnote : call.registered? c s = some (l.footnote c, s.footnotes.counter + 1) := by
      rw [Callback.registered?, hlink]
      rfl
    rw [hnote]
    exact ⟨rfl, Footnotes.waiting_register hs⟩

/-- Nor do many of them. -/
theorem registers_stateAfter (hs : s.footnotes.Counted) {calls : List Callback}
    (h : ∀ call ∈ calls, call.isInline) :
    Registers s (registrations c s calls) (stateAfter c s calls) := by
  induction calls generalizing s with
  | nil => exact .refl s
  | cons call calls ih =>
    obtain ⟨hcall, hcalls⟩ := List.forall_mem_cons.1 h
    exact (registers_run hmode hs hcall).trans (ih ((step_run hmode call).counted hs) hcalls)

end

/-! ## The heading -/

namespace Footnotes

theorem map_fst_waiting (f : Footnotes) : f.waiting.map Prod.fst = f.pending :=
  List.zipIdx_map_fst _ _

theorem length_waiting (f : Footnotes) : f.waiting.length = f.pending.length :=
  List.length_zipIdx

/-- No footnote waits if none is pending. -/
theorem waiting_eq_nil_iff {f : Footnotes} : f.waiting = [] ↔ f.pending = [] := by
  rw [← map_fst_waiting, List.map_eq_nil_iff]

/-- The oldest footnotes are the first of those that wait. -/
theorem Counted.waiting_drop {f : Footnotes} (hf : f.Counted) {before notes : List (Footnote × Nat)}
    (h : f.waiting = before ++ notes) :
    (f.oldest before.length).zipIdx f.first = before ∧ (f.drop before.length).waiting = notes := by
  have hparts := waiting_eq_append_drop hf before.length
  have hlength : ((f.oldest before.length).zipIdx f.first).length = before.length := by
    have hpending : f.pending.length = before.length + notes.length := by
      rw [← length_waiting, h, List.length_append]
    rw [List.length_zipIdx, oldest, List.length_take, hpending]
    omega
  rw [h] at hparts
  exact List.append_inj hparts.symm hlength

end Footnotes

/-- The link lines of a heading's answer are those handed out in front of it, and those of its
content. -/
theorem linkLines_heading (mode : LinkMode) (before : List (Footnote × Nat)) (content : Content)
    (level : Nat) :
    Content.linkLines ((if before = [] then [] else paragraphRegion (linesOf mode before)) ++
        headingLine content level) =
      linesOf mode before ++ content.linkLines := by
  -- footnotes are link lines
  have hlines : (linesOf mode before).filter Atom.isLink = linesOf mode before := by
    refine List.filter_eq_self.2 fun atom hatom => ?_
    obtain ⟨_, -, rfl⟩ := List.mem_map.1 hatom
    rfl
  rw [Content.linkLines, List.filter_append, filter_headingLine fun _ => rfl, ← Content.linkLines]
  congr 1
  split
  · rename_i hnone
    rw [hnone]
    rfl
  · rw [Content.linkLines, paragraphRegion, List.filter_append,
      List.filter_cons_of_neg Bool.false_ne_true, hlines]
    exact List.append_nil _

section

variable {c : Conversion} (hmode : c.links = .paragraph ∨ c.links = .copy) {s : RenderState}
  (hs : s.footnotes.Counted)
include hmode hs

/-- When the line of a heading is made, the footnotes that waited before it come first, and the mark
tells how many they are. -/
theorem waiting_stateAfter_enterHeading {inlines : List Callback}
    (h : ∀ call ∈ inlines, call.isInline) :
    let made := stateAfter c s (.enterHeading :: inlines)
    made.headingMark = s.footnotes.waiting.length ∧
      made.footnotes.waiting =
        s.footnotes.waiting ++ registrations c s (.enterHeading :: inlines) := by
  have huses : c.links.usesFootnotes := by rcases hmode with h | h <;> rw [h] <;> rfl
  -- entering the heading sets the mark and keeps the footnotes
  let entered : RenderState := { s with headingMark := s.footnotes.pending.length }
  have hentered : entered.footnotes.Counted := hs
  obtain ⟨hmark, hwaiting⟩ := registers_stateAfter huses hentered h
  exact ⟨hmark.trans s.footnotes.length_waiting.symm, hwaiting⟩

/-- If the footnotes before it are those that waited when it began, a heading hands out these. -/
theorem heading_of_waiting {before notes : List (Footnote × Nat)}
    (hmark : s.headingMark = before.length) (hwaiting : s.footnotes.waiting = before ++ notes)
    (content : Content) (level : Nat) :
    heading c content level s =
      ((if before = [] then [] else paragraphRegion (linesOf c.links before)) ++
        headingLine content level,
        { s with headingMark := 0, footnotes := s.footnotes.drop before.length }) := by
  have hscoped : c.links.isParagraphScoped := by rcases hmode with h | h <;> rw [h] <;> rfl
  have huses : c.links.usesFootnotes := by rcases hmode with h | h <;> rw [h] <;> rfl
  by_cases hnone : before = []
  · -- nothing is handed out, and the mark is zero already
    subst hnone
    have hstate : s = { s with headingMark := 0 } := by rw [← List.length_nil, ← hmark]
    simp only [heading, hmark, List.length_nil, Nat.lt_irrefl, decide_false, Bool.and_false,
      Bool.false_eq_true, if_true, if_false, List.nil_append]
    exact congrArg _ hstate
  · -- the mark tells how many footnotes waited before the heading
    have hsome : 0 < before.length := List.length_pos_iff.2 hnone
    simp only [heading, hmark, hscoped, hsome, decide_true, Bool.and_true, if_true, hnone,
      if_false]
    rw [flushFootnotes_eq_linesOf huses]
    simp only [(hs.waiting_drop hwaiting).1]

end

/-- Where footnotes are kept with their paragraph, a heading hands out exactly the footnotes that
waited when it began, in front of its line, in the order and with the numbers of their
registrations; the link lines of its content follow.  The footnotes of its own links wait on. -/
theorem heading_closes_scope {c : Conversion} (hmode : c.links = .paragraph ∨ c.links = .copy)
    (calls : List Callback) {inlines : List Callback}
    (hinlines : ∀ call ∈ inlines, call.isInline) (content : Content) (level : Nat) :
    let begun := stateAfter c .initial calls
    let made := stateAfter c begun (.enterHeading :: inlines)
    let answer := (heading c content level made).1
    let after := (heading c content level made).2
    let lines := linesOf c.links begun.footnotes.waiting
    begun.footnotes.waiting <:+ registrations c .initial calls ∧
      answer = (if begun.footnotes.pending = [] then [] else paragraphRegion lines) ++
        headingLine content level ∧
      answer.linkLines = lines ++ content.linkLines ∧
      (c.links = .paragraph →
        ∀ note number, (footnoteLine c.links number note).number = number) ∧
      after.footnotes.waiting = registrations c begun (.enterHeading :: inlines) ∧
      after.footnotes.pending =
        (registrations c begun (.enterHeading :: inlines)).map Prod.fst ∧
      after.footnotes.counter = made.footnotes.counter := by
  intro begun made answer after lines
  have huses : c.links.usesFootnotes := by rcases hmode with h | h <;> rw [h] <;> rfl
  have hinitial : RenderState.initial.footnotes.Counted := Nat.le_refl 0
  have hbegun : begun.footnotes.Counted := counted_stateAfter huses hinitial calls
  have hmade : made.footnotes.Counted := counted_stateAfter huses hbegun _
  -- the mark is set before the heading, and its own links come behind
  obtain ⟨hmark, hwaiting⟩ := waiting_stateAfter_enterHeading hmode hbegun hinlines
  have hheading := heading_of_waiting hmode hmade hmark hwaiting content level
  have hafter : after.footnotes = made.footnotes.drop begun.footnotes.waiting.length := by
    simp only [after, hheading]
  have hrest : after.footnotes.waiting = registrations c begun (.enterHeading :: inlines) := by
    rw [hafter]
    exact (hmade.waiting_drop hwaiting).2
  refine ⟨waiting_stateAfter_isSuffix huses hinitial calls, ?_, ?_, fun hlinks note number => ?_,
    hrest, ?_, ?_⟩
  · simp only [answer, hheading, lines, Footnotes.waiting_eq_nil_iff]
  · simp only [answer, hheading, linkLines_heading, lines]
  · rw [hlinks]
    exact number_numberedLine number note
  · rw [← Footnotes.map_fst_waiting, hrest]
  · rw [hafter]
    rfl

/-- The number that a paragraph gave back is registered again, and the heading does not hand out the
link within it. -/
theorem heading_closes_scope_reused :
    let c := { Conversion.standard with links := .paragraph }
    let link (name : Char) : Callback := .link ['u', name] (Content.ofText [name]) []
    let calls := [link 'a', .paragraph (Content.ofText "a[1]".toList), link 'b', link 'c']
    let inlines := [.text ['x'], link 'd']
    let made := stateAfter c (stateAfter c .initial calls) (.enterHeading :: inlines)
    let content := Content.ofText "xd[3]".toList
    (∀ call ∈ inlines, call.isInline) ∧
      (heading c content 1 made).1 =
        paragraphRegion [.link ⟨"ub".toList, some "1: ub".toList⟩,
            .link ⟨"uc".toList, some "2: uc".toList⟩] ++
          Content.ofText "# xd[3]\n\n".toList ∧
      (heading c content 1 made).2.footnotes.pending = [⟨"ud".toList, ['d']⟩] := by
  intro c link calls inlines made content
  -- the footnote of the first paragraph has been withdrawn, so its number is used again
  have hmode : c.links = .paragraph := rfl
  have hinlines : ∀ call ∈ inlines, call.isInline := by decide
  obtain ⟨-, hanswer, -, -, -, hpending, -⟩ :=
    heading_closes_scope (.inl hmode) calls hinlines content 1
  exact ⟨hinlines, hanswer.trans (by decide), hpending.trans (by decide)⟩

end Gemtext
