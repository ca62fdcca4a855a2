import Gemtext.Proofs.Layout.Lines
import Gemtext.Proofs.Layout.Regions
import Gemtext.Proofs.Text.Visible

/-!
# The layout keeps what is visible

No pass of the layout changes what is visible, so the document shows the visible characters of its
content in order, each of them once (`visible_layout`).
-/

namespace Gemtext

namespace Layout

open Text

/-! ## The passes over text -/

/-- Ending a line takes spaces and tabs away and puts a newline in. -/
theorem visible_endLine (written : Text) : visible (endLine written) = visible written := by
  unfold endLine
  split
  · rfl
  · rfl
  · rw [visible_newline, dropEndSpaces]
    refine visible_dropWhile (fun c hc => ?_) written
    rcases Bool.or_eq_true_iff.1 hc with h | h <;> rw [eq_of_beq h] <;> decide

/-- Isolating link lines moves no visible character. -/
theorem visible_isolateLinksAfter (written : Text) (afterLink : Bool) (c : Content) :
    visible (isolateLinksAfter written afterLink c) =
      visible written.reverse ++ visible (c.flatMap Atom.print) := by
  induction c generalizing written afterLink with
  | nil => simp [isolateLinksAfter]
  | cons atom rest ih =>
    rw [List.flatMap_cons, visible_append, ← List.append_assoc]
    cases atom with
    | char x =>
      rw [isolateLinksAfter]
      split <;> rw [ih] <;> simp [Atom.print]
    | link line =>
      rw [isolateLinksAfter, ih]
      simp [Atom.print, visible_endLine]
    | _ => simp [isolateLinksAfter, ih, Atom.print]

/-- Link lines on lines of their own are still written in their places. -/
theorem visible_isolateLinks (c : Content) :
    visible (isolateLinks c) = visible (c.flatMap Atom.print) :=
  visible_isolateLinksAfter [] false c

/-- Stripping takes blank characters away. -/
theorem visible_stripLinesAfterLinks (inFence strip : Bool) (lines : List Text) :
    (stripLinesAfterLinks inFence strip lines).flatMap visible = lines.flatMap visible := by
  induction lines generalizing inFence strip with
  | nil => rfl
  | cons line rest ih =>
    obtain ⟨shown, hshown, heq⟩ := stripLinesAfterLinks_cons inFence strip line rest
    have hline : visible shown = visible line := by
      cases strip with
      | false => rw [hshown, if_neg Bool.false_ne_true]
      | true => rw [hshown, if_pos rfl, visible_trimStart]
    rw [heq, List.flatMap_cons, List.flatMap_cons, ih, hline]

theorem visible_stripAfterLinks (s : Text) : visible (stripAfterLinks s) = visible s := by
  rw [stripAfterLinks, visible_joinWith_newline, visible_stripLinesAfterLinks,
    ← visible_joinWith_newline, joinWith_splitOn]

/-- Trimming takes blank characters away. -/
theorem visible_trimDocument (s : Text) : visible (trimDocument s) = visible s := by
  rw [trimDocument, visible_dropWhile, visible_trimEnd]
  intro c hc
  rcases Bool.or_eq_true_iff.1 hc with h | h <;> rw [eq_of_beq h] <;> decide

/-- A newline that goes is not visible. -/
theorem visible_limitNewlines (seen : Nat) (s : Text) :
    visible (limitNewlines seen s) = visible s := by
  induction s generalizing seen with
  | nil => rfl
  | cons c rest ih =>
    rw [limitNewlines]
    by_cases hc : c = '\n'
    · subst hc
      rw [if_pos rfl]
      split <;> simp only [visible_newline, ih]
    · rw [if_neg hc, visible_cons, ih, ← visible_cons]

end Layout

/-! ## The whole layout -/

namespace Content

open Text

/-- What is visible of a content skips blank characters, boundaries and hard breaks. -/
theorem skipsBlank_visible : SkipsBlank fun atom => visible atom.print where
  blank c hc := visible_of_isBlank fun d hd => by rwa [List.mem_singleton.1 hd]
  boundary := rfl
  hardBreak := rfl

theorem visible_flatMap_print (c : Content) :
    visible (c.flatMap Atom.print) = c.flatMap fun atom => visible atom.print := by
  induction c with
  | nil => rfl
  | cons atom rest ih => rw [List.flatMap_cons, visible_append, ih, List.flatMap_cons]

/-- Laying paragraphs out moves no visible character. -/
theorem visible_layoutParagraphs (c : Content) :
    visible (c.layoutParagraphs.flatMap Atom.print) = visible (c.flatMap Atom.print) := by
  rw [visible_flatMap_print, visible_flatMap_print, flatMap_layoutParagraphs skipsBlank_visible]

end Content

open Content Layout Text in
/-- The document shows the visible characters of its fragments and of the trailing fragments, in
order and each of them once.  So does every pass for what it is given. -/
theorem visible_layout (fragments trailing : List Fragment) :
    visible (layout (ofFragments fragments) (ofFragments trailing)) =
        visible ((fragments ++ trailing).flatMap Fragment.print) ∧
      (∀ c : Content,
        visible (c.layoutParagraphs.flatMap Atom.print) = visible (c.flatMap Atom.print) ∧
          visible (c.resolveHardBreaks.flatMap Atom.print) = visible (c.flatMap Atom.print) ∧
          visible (isolateLinks c) = visible (c.flatMap Atom.print)) ∧
      ∀ s : Text,
        visible (stripAfterLinks s) = visible s ∧ visible (trimDocument s) = visible s ∧
          visible (limitNewlines 0 s) = visible s := by
  refine ⟨?_, fun c => ⟨?_, ?_, ?_⟩, fun s => ⟨?_, ?_, ?_⟩⟩
  · rw [layout, visible_limitNewlines, visible_trimDocument, visible_stripAfterLinks,
      visible_isolateLinks, List.flatMap_append, visible_append, flatMap_print_resolveHardBreaks,
      visible_layoutParagraphs, flatMap_print_ofFragments, flatMap_print_ofFragments,
      List.flatMap_append, visible_append]
  · exact visible_layoutParagraphs c
  · rw [flatMap_print_resolveHardBreaks]
  · exact visible_isolateLinks c
  · exact visible_stripAfterLinks s
  · exact visible_trimDocument s
  · exact visible_limitNewlines 0 s

end Gemtext
