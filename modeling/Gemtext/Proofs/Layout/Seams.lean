import Gemtext.Proofs.Content.Lines
import Gemtext.Proofs.Layout.LinkLines

/-!
# Seams between lines

Behind a line that is ended the passes of the layout begin anew: link lines are isolated on either
side of the seam by itself (`isolateLinks_append`), and the lines behind it are stripped from the
state that the lines before it leave (`stripLinesAfterLinks_append`).  So a block of lines that all
begin visibly comes through all passes as it is (`holdsLines_passes`).
-/

namespace Gemtext

open Text

/-! ## Ended lines, and blocks of lines -/

/-- The content is empty or ends with a newline. -/
def Content.Ended (c : Content) : Prop :=
  c = [] ∨ ∃ lines, c = lines ++ [.char '\n']

/-- Ended contents stand one behind the other. -/
theorem Content.Ended.append {c d : Content} (hc : c.Ended) (hd : d.Ended) : (c ++ d).Ended := by
  rcases hd with rfl | ⟨lines, rfl⟩
  · rwa [List.append_nil]
  · exact .inr ⟨c ++ lines, (List.append_assoc ..).symm⟩

namespace Text

/-- The text is empty or ends with a newline. -/
def EndsLine (s : Text) : Prop :=
  s = [] ∨ ∃ lines, s = lines ++ ['\n']

/-- What a text ends with ends with a newline as the text does. -/
theorem EndsLine.of_isSuffix {s t : Text} (ht : t.EndsLine) (h : s <:+ t) : s.EndsLine := by
  rcases List.eq_nil_or_concat s with rfl | ⟨lines, last, rfl⟩
  · exact .inl rfl
  · rcases ht with rfl | ⟨all, rfl⟩
    · exact absurd (List.suffix_nil.1 h) (by simp)
    · obtain ⟨dropped, hdropped⟩ := h
      rw [List.concat_eq_append, ← List.append_assoc] at hdropped
      obtain rfl : last = '\n' := by simpa using (List.append_inj' hdropped rfl).2
      exact .inr ⟨lines, List.concat_eq_append⟩

/-- Every line of the text begins visibly, and the last one ends visibly. -/
structure Upright (block : Text) : Prop where
  lines : ∀ line ∈ splitOn '\n' block, ∃ c rest, line = c :: rest ∧ isBlank c = false
  last : ∃ start c, block = start ++ [c] ∧ isBlank c = false

/-- An upright block begins visibly. -/
theorem Upright.first {block : Text} (h : block.Upright) :
    ∃ c rest, block = c :: rest ∧ isBlank c = false := by
  have hnil : [] ∉ splitOn '\n' block := fun hmem => by
    obtain ⟨c, rest, hline, -⟩ := h.lines [] hmem
    cases hline
  cases block with
  | nil => exact absurd (List.mem_singleton_self _) hnil
  | cons c rest =>
    refine ⟨c, rest, rfl, ?_⟩
    obtain ⟨piece, pieces, hsplit⟩ := List.exists_cons_of_ne_nil (splitOn_ne_nil '\n' rest)
    have hlines := h.lines
    rw [splitOn, hsplit] at hlines hnil
    by_cases hc : c = '\n'
    · rw [if_pos hc] at hnil
      exact absurd List.mem_cons_self hnil
    · rw [if_neg hc] at hlines
      obtain ⟨d, more, hline, hd⟩ := hlines (c :: piece) List.mem_cons_self
      rwa [(List.cons.inj hline).1]

/-- The lines of the block are lines of the text, one behind the other. -/
def HoldsLines (block s : Text) : Prop :=
  splitOn '\n' block <:+: splitOn '\n' s

/-- A block of lines stands behind a line that is ended, and ends with a newline itself if it does
not end the text. -/
theorem holdsLines_iff {block s : Text} :
    HoldsLines block s ↔
      ∃ start rest, s = start ++ block ++ rest ∧ start.EndsLine ∧
        (rest = [] ∨ ∃ more, rest = '\n' :: more) := by
  have hne := splitOn_ne_nil '\n' block
  constructor
  · -- the lines before the block are ended, and so is the block if lines follow
    rintro ⟨before, behind, hsplit⟩
    rw [← joinWith_splitOn '\n' s, ← hsplit]
    have hbehind : ∃ rest, joinWith ['\n'] (splitOn '\n' block ++ behind) = block ++ rest ∧
        (rest = [] ∨ ∃ more, rest = '\n' :: more) := by
      by_cases hnone : behind = []
      · exact ⟨[], by rw [hnone, List.append_nil, joinWith_splitOn, List.append_nil], .inl rfl⟩
      · refine ⟨'\n' :: joinWith ['\n'] behind, ?_, .inr ⟨_, rfl⟩⟩
        rw [joinWith_append hne hnone, joinWith_splitOn, List.append_assoc]
        rfl
    obtain ⟨rest, hjoin, hrest⟩ := hbehind
    rw [List.append_assoc]
    by_cases hnone : before = []
    · exact ⟨[], rest, by rw [hnone, List.nil_append, hjoin, List.nil_append], .inl rfl, hrest⟩
    · refine ⟨joinWith ['\n'] before ++ ['\n'], rest, ?_, .inr ⟨_, rfl⟩, hrest⟩
      rw [joinWith_append hnone (List.append_ne_nil_of_left_ne_nil hne behind), hjoin]
      simp only [List.append_assoc]
  · -- the block begins and ends where lines do
    rintro ⟨start, rest, rfl, hstart, hrest⟩
    have hbehind : splitOn '\n' block <+: splitOn '\n' (block ++ rest) := by
      rcases hrest with rfl | ⟨more, rfl⟩
      · simp only [List.append_nil, List.prefix_rfl]
      · rw [splitOn_append_cons]
        exact List.prefix_append _ _
    rw [HoldsLines, List.append_assoc]
    rcases hstart with rfl | ⟨lines, rfl⟩
    · exact hbehind.isInfix
    · rw [List.append_assoc, List.singleton_append, splitOn_append_cons]
      exact hbehind.isInfix.trans (List.suffix_append _ _).isInfix

end Text

namespace Layout

open Content

/-! ## Isolating the link lines -/

variable {written base : Text} {afterLink : Bool}

/-- Ending a line reaches back to the last newline at most. -/
theorem endLine_append_cons (written base : Text) :
    endLine (written ++ '\n' :: base) = endLine written ++ '\n' :: base := by
  cases written with
  | nil => rfl
  | cons c rest =>
    -- the spaces that are dropped stand on the line
    by_cases hn : c = '\n'
    · subst hn
      rfl
    · rw [List.cons_append, endLine_of_ne hn, endLine_of_ne hn, ← List.cons_append, dropEndSpaces,
        List.dropWhile_append]
      split
      · rename_i hnil
        rw [dropEndSpaces, List.isEmpty_iff.1 hnil]
        rfl
      · rfl

/-- What was written up to the last newline stays as it is. -/
theorem isolateLinksAfter_append_cons (written base : Text) (afterLink : Bool) (c : Content) :
    isolateLinksAfter (written ++ '\n' :: base) afterLink c =
      base.reverse ++ '\n' :: isolateLinksAfter written afterLink c := by
  induction c generalizing written afterLink with
  | nil => simp [isolateLinksAfter]
  | cons atom rest ih =>
    cases atom with
    | char x =>
      rw [isolateLinksAfter, isolateLinksAfter]
      -- the character starts a line behind a link, or stays on its own
      split
      · exact ih (x :: '\n' :: written) false
      · exact ih (x :: written) false
    | link line =>
      rw [isolateLinksAfter, isolateLinksAfter, endLine_append_cons, ← List.append_assoc, ih]
    | _ => exact ih written afterLink

/-- What is written so far and whether a link line came last are all that the rest depends on. -/
theorem exists_isolateLinksAfter_append (written : Text) (afterLink : Bool) (c : Content) :
    ∃ written' afterLink', ∀ rest,
      isolateLinksAfter written afterLink (c ++ rest) =
        isolateLinksAfter written' afterLink' rest := by
  induction c generalizing written afterLink with
  | nil => exact ⟨written, afterLink, fun _ => rfl⟩
  | cons atom c ih =>
    cases atom with
    | char x =>
      by_cases hx : (afterLink && x != '\n') = true
      · obtain ⟨written', afterLink', h⟩ := ih (x :: '\n' :: written) false
        exact ⟨written', afterLink', fun rest => by
          rw [List.cons_append, isolateLinksAfter, if_pos hx, h]⟩
      · obtain ⟨written', afterLink', h⟩ := ih (x :: written) false
        exact ⟨written', afterLink', fun rest => by
          rw [List.cons_append, isolateLinksAfter, if_neg hx, h]⟩
    | link line => exact ih _ true
    | _ => exact ih written afterLink

/-- A newline ends what is isolated before it, and link lines behind it are isolated anew. -/
theorem isolateLinks_append_newline (c : Content) :
    ∃ lines, ∀ rest,
      isolateLinks (c ++ .char '\n' :: rest) = lines ++ '\n' :: isolateLinks rest := by
  obtain ⟨written, afterLink, h⟩ := exists_isolateLinksAfter_append [] false c
  refine ⟨written.reverse, fun rest => ?_⟩
  rw [isolateLinks, h, isolateLinksAfter, if_neg (by simp), isolateLinks]
  exact isolateLinksAfter_append_cons [] written false rest

/-- Text is what it is isolated to. -/
theorem isolateLinks_ofText (s : Text) : isolateLinks (ofText s) = s := by
  have hafter (written : Text) :
      isolateLinksAfter written false (ofText s) = written.reverse ++ s := by
    induction s generalizing written with
    | nil => simp [ofText, isolateLinksAfter]
    | cons c rest ih =>
      rw [show ofText (c :: rest) = .char c :: ofText rest from rfl, isolateLinksAfter,
        if_neg (by simp), ih]
      simp
  exact hafter []

/-- Behind an ended line, link lines are isolated anew. -/
theorem isolateLinks_append {c : Content} (hc : c.Ended) (rest : Content) :
    isolateLinks (c ++ rest) = isolateLinks c ++ isolateLinks rest := by
  rcases hc with rfl | ⟨before, rfl⟩
  · rfl
  · obtain ⟨lines, h⟩ := isolateLinks_append_newline before
    have hend : isolateLinks (before ++ [.char '\n']) = lines ++ ['\n'] := h []
    rw [hend, List.append_assoc, List.append_assoc]
    exact h rest

/-- The line of an ended content stays ended. -/
theorem endsLine_isolateLinks {c : Content} (hc : c.Ended) : (isolateLinks c).EndsLine := by
  rcases hc with rfl | ⟨before, rfl⟩
  · exact .inl rfl
  · obtain ⟨lines, h⟩ := isolateLinks_append_newline before
    exact .inr ⟨lines, h []⟩

/-! ## Stripping the lines after link lines -/

/-- Whether the line behind these lines stands in a fence, and whether it follows a link line
outside a fence.  The lines count as they are stripped. -/
def stateBehind (inFence strip : Bool) : List Text → Bool × Bool
  | [] => (inFence, strip)
  | line :: rest =>
    let shown := if strip then line.trimStart else line
    stateBehind (inFence ^^ isFence shown) (!inFence && startsLink shown) rest

/-- The lines are stripped in two parts, with the state behind the first. -/
theorem stripLinesAfterLinks_append (inFence strip : Bool) (lines others : List Text) :
    stripLinesAfterLinks inFence strip (lines ++ others) =
      stripLinesAfterLinks inFence strip lines ++
        stripLinesAfterLinks (stateBehind inFence strip lines).1
          (stateBehind inFence strip lines).2 others := by
  induction lines generalizing inFence strip with
  | nil => rfl
  | cons line rest ih =>
    obtain ⟨shown, rfl, heq⟩ := stripLinesAfterLinks_cons inFence strip line (rest ++ others)
    obtain ⟨_, rfl, heq'⟩ := stripLinesAfterLinks_cons inFence strip line rest
    rw [List.cons_append, heq, heq', ih, List.cons_append, stateBehind]

/-- There is nothing to strip from lines that begin visibly. -/
theorem stripLinesAfterLinks_of_visible {lines : List Text}
    (h : ∀ line ∈ lines, ∃ c rest, line = c :: rest ∧ isBlank c = false) (inFence strip : Bool) :
    stripLinesAfterLinks inFence strip lines = lines := by
  induction lines generalizing inFence strip with
  | nil => rfl
  | cons line rest ih =>
    obtain ⟨⟨c, more, rfl, hc⟩, hrest⟩ := List.forall_mem_cons.1 h
    obtain ⟨shown, hshown, heq⟩ := stripLinesAfterLinks_cons inFence strip (c :: more) rest
    have hsame : shown = c :: more := by
      rw [hshown, Text.trimStart, List.dropWhile_cons_of_neg (by simp [hc]), ite_self]
    rw [heq, ih hrest, hsame]

/-! ## Blocks of lines -/

variable {block s : Text}

/-- Stripping leaves an upright block alone. -/
theorem holdsLines_stripAfterLinks (hblock : block.Upright) (h : block.HoldsLines s) :
    block.HoldsLines (stripAfterLinks s) := by
  obtain ⟨before, behind, hsplit⟩ := h
  rw [HoldsLines, splitOn_stripAfterLinks, ← hsplit, stripLinesAfterLinks_append,
    stripLinesAfterLinks_append, stripLinesAfterLinks_of_visible hblock.lines]
  exact ⟨_, _, rfl⟩

/-- So does trimming the document. -/
theorem holdsLines_trimDocument (hblock : block.Upright) (h : block.HoldsLines s) :
    block.HoldsLines (trimDocument s) := by
  obtain ⟨start, rest, rfl, hstart, hrest⟩ := holdsLines_iff.1 h
  obtain ⟨body, last, hlast, hvisible⟩ := hblock.last
  -- the end of the block is visible, so what is trimmed stands behind it
  have hend : (start ++ block ++ rest).trimEnd = start ++ block ++ rest.trimEnd := by
    have htrim := trimEnd_append_cons hvisible (start ++ body) rest
    rw [hlast]
    simpa only [List.append_assoc, List.singleton_append] using htrim
  -- and so is its beginning, so what is dropped in front stands before it
  obtain ⟨first, more, hfirst, hbegins⟩ := hblock.first
  have hstop : (first == '\r' || first == '\n') = false := by
    rw [Bool.or_eq_false_iff, beq_eq_false_iff_ne, beq_eq_false_iff_ne]
    constructor <;> (rintro rfl; exact absurd hbegins (by decide))
  have hdrop : ((start ++ block ++ rest.trimEnd).dropWhile fun c => c == '\r' || c == '\n') =
      (start.dropWhile fun c => c == '\r' || c == '\n') ++ block ++ rest.trimEnd := by
    rw [List.append_assoc, List.dropWhile_append, hfirst, List.cons_append,
      List.dropWhile_cons_of_neg (by rw [hstop]; exact Bool.false_ne_true)]
    split
    · rename_i hnil
      rw [List.isEmpty_iff.1 hnil, List.nil_append, List.cons_append]
    · rw [List.append_assoc, List.cons_append]
  rw [trimDocument, hend, hdrop]
  refine holdsLines_iff.2 ⟨_, _, rfl, hstart.of_isSuffix (List.dropWhile_suffix _), ?_⟩
  rcases hrest with rfl | ⟨more, rfl⟩
  · exact .inl rfl
  · obtain ⟨dropped, hprefix⟩ := trimEnd_isPrefix ('\n' :: more)
    cases htrim : trimEnd ('\n' :: more) with
    | nil => exact .inl rfl
    | cons c kept =>
      rw [htrim, List.cons_append] at hprefix
      exact .inr ⟨kept, by rw [(List.cons.inj hprefix).1]⟩

/-- The first character is never taken away. -/
theorem limitNewlines_zero_ne_nil {s : Text} (h : s ≠ []) : limitNewlines 0 s ≠ [] := by
  cases s with
  | nil => exact absurd rfl h
  | cons c rest =>
    rw [limitNewlines]
    split <;> exact List.cons_ne_nil _ _

/-- A newline at the end is only taken away behind another one. -/
theorem endsLine_limitNewlines {seen : Nat} {s : Text} (h : s.EndsLine) :
    (limitNewlines seen s).EndsLine := by
  -- a character in front leaves the end as it is
  have hcons (c : Char) {t : Text} (ht : t.EndsLine) (hne : c = '\n' ∨ t ≠ []) :
      EndsLine (c :: t) := by
    rcases ht with rfl | ⟨lines, rfl⟩
    · exact .inr ⟨[], by rw [hne.resolve_right (by simp)]; rfl⟩
    · exact .inr ⟨c :: lines, rfl⟩
  rcases h with rfl | ⟨lines, rfl⟩
  · exact .inl rfl
  · induction lines generalizing seen with
    | nil =>
      rw [List.nil_append, limitNewlines, if_pos rfl, limitNewlines]
      split
      · exact .inr ⟨[], rfl⟩
      · exact .inl rfl
    | cons c rest ih =>
      rw [List.cons_append, limitNewlines]
      split
      · rename_i hc
        split
        · exact hcons c ih (.inl hc)
        · exact ih
      · exact hcons c ih (.inr (limitNewlines_zero_ne_nil (by simp)))

/-- How many newlines came last is all that the rest depends on. -/
theorem exists_limitNewlines_append (seen : Nat) (s rest : Text) :
    ∃ seen', limitNewlines seen (s ++ rest) = limitNewlines seen s ++ limitNewlines seen' rest := by
  induction s generalizing seen with
  | nil => exact ⟨seen, rfl⟩
  | cons c s ih =>
    rw [List.cons_append, limitNewlines, limitNewlines]
    split
    · split
      · exact (ih (seen + 1)).imp fun _ h => by rw [h, List.cons_append]
      · exact ih seen
    · exact (ih 0).imp fun _ h => by rw [h, List.cons_append]

/-- No newline is taken away from a block of lines that are not empty. -/
theorem limitNewlines_block {block : Text} (h : ∀ line ∈ splitOn '\n' block, line ≠ [])
    (seen : Nat) (rest : Text) :
    limitNewlines seen (block ++ rest) = block ++ limitNewlines 0 rest := by
  induction block using lineInduction generalizing seen with
  | last line hline =>
    rw [splitOn_of_not_mem hline] at h
    exact limitNewlines_append hline (h line (List.mem_singleton_self line)) seen rest
  | cons line others hline ih =>
    rw [splitOn_piece_cons hline] at h
    obtain ⟨hfirst, hothers⟩ := List.forall_mem_cons.1 h
    rw [List.append_assoc, limitNewlines_append hline hfirst, List.cons_append, limitNewlines,
      if_pos rfl, if_pos (by decide), ih hothers, List.append_assoc, List.cons_append]

/-- An upright block has no empty lines to be taken away. -/
theorem holdsLines_limitNewlines (hblock : block.Upright) (h : block.HoldsLines s) :
    block.HoldsLines (limitNewlines 0 s) := by
  obtain ⟨start, rest, rfl, hstart, hrest⟩ := holdsLines_iff.1 h
  obtain ⟨seen, hseen⟩ := exists_limitNewlines_append 0 start (block ++ rest)
  have hlines : ∀ line ∈ splitOn '\n' block, line ≠ [] := fun line hline => by
    obtain ⟨c, more, rfl, -⟩ := hblock.lines line hline
    exact List.cons_ne_nil c more
  rw [List.append_assoc, hseen, limitNewlines_block hlines, ← List.append_assoc]
  refine holdsLines_iff.2 ⟨_, _, rfl, endsLine_limitNewlines hstart, ?_⟩
  rcases hrest with rfl | ⟨more, rfl⟩
  · exact .inl rfl
  · exact .inr ⟨limitNewlines 1 more, by rw [limitNewlines, if_pos rfl, if_pos (by decide)]⟩

/-- A block of lines that begin visibly comes through all passes, wherever it stands behind an ended
line and ends with a newline itself. -/
theorem holdsLines_passes (hblock : block.Upright) {before : Content} (hbefore : before.Ended)
    (behind : Content) :
    block.HoldsLines (limitNewlines 0 (trimDocument (stripAfterLinks
      (isolateLinks (before ++ ofText (block ++ ['\n']) ++ behind))))) := by
  have htext : (ofText (block ++ ['\n'])).Ended := .inr ⟨ofText block, by simp [ofText]⟩
  refine holdsLines_limitNewlines hblock (holdsLines_trimDocument hblock
    (holdsLines_stripAfterLinks hblock (holdsLines_iff.2
      ⟨isolateLinks before, '\n' :: isolateLinks behind, ?_, endsLine_isolateLinks hbefore,
        .inr ⟨_, rfl⟩⟩)))
  rw [List.append_assoc, isolateLinks_append hbefore, isolateLinks_append htext,
    isolateLinks_ofText, List.append_assoc, List.append_assoc, List.singleton_append]

end Layout

end Gemtext
