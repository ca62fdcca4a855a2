import Gemtext.Layout
import Gemtext.Proofs.Text.Lines

/-!
# The passes over text, line by line

Two passes of the layout work on the lines of the document.  `stripAfterLinks` trims some of them
and carries on whether it stands in a fence and whether it has just passed a link line
(`stripLinesAfterLinks_cons`).  `limitNewlines` takes empty lines away and keeps every other line
as it is (`limitNewlines_line`).
-/

namespace Gemtext

namespace Layout

open Text

/-! ## Lines after link lines -/

/-- A line that opens or closes a fence is no link line. -/
theorem startsLink_of_isFence {line : Text} (h : isFence line) : startsLink line = false := by
  cases line with
  | nil => simp [isFence, fence] at h
  | cons c rest =>
    simp only [isFence, fence, List.isPrefixOf, Bool.and_eq_true, beq_iff_eq] at h
    simp [startsLink, List.isPrefixOf, ← h.1]

/-- A line is trimmed if it follows a link line, and it is the trimmed line that counts as a fence
or as a link line for the lines behind it. -/
theorem stripLinesAfterLinks_cons (inFence strip : Bool) (line : Text) (rest : List Text) :
    ∃ shown, shown = (if strip then line.trimStart else line) ∧
      stripLinesAfterLinks inFence strip (line :: rest) =
        shown :: stripLinesAfterLinks (inFence ^^ isFence shown) (!inFence && startsLink shown)
          rest := by
  refine ⟨_, rfl, ?_⟩
  rw [stripLinesAfterLinks]
  generalize (if strip then line.trimStart else line) = shown
  by_cases h : isFence shown
  · simp [h, startsLink_of_isFence h]
  · simp [h]

/-- Trimming a line puts no character in. -/
theorem mem_of_mem_stripLinesAfterLinks {inFence strip : Bool} {lines : List Text} {line : Text}
    (h : line ∈ stripLinesAfterLinks inFence strip lines) {c : Char} (hc : c ∈ line) :
    ∃ before ∈ lines, c ∈ before := by
  induction lines generalizing inFence strip with
  | nil => simp [stripLinesAfterLinks] at h
  | cons first rest ih =>
    obtain ⟨shown, hshown, heq⟩ := stripLinesAfterLinks_cons inFence strip first rest
    rw [heq] at h
    rcases List.mem_cons.1 h with rfl | h
    · refine ⟨first, List.mem_cons_self, ?_⟩
      -- the line stays, or is trimmed at its beginning
      cases strip with
      | false => rwa [hshown] at hc
      | true =>
        rw [hshown] at hc
        exact (List.dropWhile_sublist isBlank).mem hc
    · obtain ⟨before, hbefore, hc⟩ := ih h
      exact ⟨before, List.mem_cons_of_mem _ hbefore, hc⟩

/-- No line is put in or taken away. -/
theorem stripLinesAfterLinks_ne_nil {inFence strip : Bool} {lines : List Text} (h : lines ≠ []) :
    stripLinesAfterLinks inFence strip lines ≠ [] := by
  cases lines with
  | nil => exact absurd rfl h
  | cons line rest =>
    obtain ⟨shown, -, heq⟩ := stripLinesAfterLinks_cons inFence strip line rest
    rw [heq]
    exact List.cons_ne_nil _ _

/-- The lines of the stripped text are the stripped lines. -/
theorem splitOn_stripAfterLinks (s : Text) :
    splitOn '\n' (stripAfterLinks s) = stripLinesAfterLinks false false (splitOn '\n' s) := by
  refine splitOn_joinWith (stripLinesAfterLinks_ne_nil (splitOn_ne_nil '\n' s)) ?_
  intro line hline hn
  obtain ⟨before, hbefore, hn⟩ := mem_of_mem_stripLinesAfterLinks hline hn
  exact (mem_and_ne_of_mem_splitOn hbefore hn).2 rfl

/-! ## Newlines in a row -/

/-- A line without a newline is not changed, and no newline counts behind it if it is not empty. -/
theorem limitNewlines_append {line : Text} (h : '\n' ∉ line) (hne : line ≠ []) (seen : Nat)
    (rest : Text) : limitNewlines seen (line ++ rest) = line ++ limitNewlines 0 rest := by
  induction line generalizing seen with
  | nil => exact absurd rfl hne
  | cons c tail ih =>
    simp only [List.mem_cons, not_or] at h
    rw [List.cons_append, limitNewlines, if_neg (Ne.symm h.1)]
    cases tail with
    | nil => rfl
    | cons d more => rw [ih h.2 (List.cons_ne_nil d more)]; rfl

/-- The last line stays. -/
theorem limitNewlines_of_not_mem {line : Text} (h : '\n' ∉ line) (seen : Nat) :
    limitNewlines seen line = line := by
  by_cases hne : line = []
  · rw [hne, limitNewlines]
  · rw [← List.append_nil line, limitNewlines_append h hne, limitNewlines]

/-- A line that is not the last one is taken away if it is empty and follows two newlines; else it
stays, with its newline. -/
theorem limitNewlines_line {line : Text} (h : '\n' ∉ line) (seen : Nat) (rest : Text) :
    (line = [] ∧ 2 ≤ seen ∧ limitNewlines seen (line ++ '\n' :: rest) = limitNewlines seen rest) ∨
      ∃ now, (line = [] ∧ now = seen + 1 ∨ line ≠ [] ∧ now = 1) ∧
        limitNewlines seen (line ++ '\n' :: rest) = line ++ '\n' :: limitNewlines now rest := by
  by_cases hne : line = []
  · subst hne
    by_cases hseen : seen < 2
    · exact .inr ⟨seen + 1, .inl ⟨rfl, rfl⟩, by simp [limitNewlines, hseen]⟩
    · exact .inl ⟨rfl, by omega, by simp [limitNewlines, hseen]⟩
  · refine .inr ⟨1, .inr ⟨hne, rfl⟩, ?_⟩
    rw [limitNewlines_append h hne]
    simp [limitNewlines]

/-- Taking newlines away leaves the other characters in order. -/
theorem limitNewlines_sublist (seen : Nat) (s : Text) : (limitNewlines seen s).Sublist s := by
  induction s generalizing seen with
  | nil => exact List.Sublist.refl _
  | cons c rest ih =>
    rw [limitNewlines]
    split
    · split
      · exact (ih _).cons_cons c
      · exact (ih _).cons c
    · exact (ih _).cons_cons c

end Layout

end Gemtext
