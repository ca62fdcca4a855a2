import Gemtext.Standard.Library
import Gemtext.Proofs.Content.Prose
import Gemtext.Proofs.Layout.Fences
import Gemtext.Proofs.Layout.Relayout
import Gemtext.Proofs.Render.Boundaries

/-!
# Headings as documents

A heading stands outside the paragraph regions, so no pass of the layout puts its lines on one: a
line break in its content ends the line, and what stands behind it is no longer marked as a heading.
So a heading is one line exactly if nothing visible follows a line break of its content
(`layout_heading`).
-/

namespace Gemtext

open Text Content Layout

namespace Layout

/-! ## Lines that show something -/

/-- Whether the line shows something. -/
def isVisible (line : Text) : Bool :=
  !line.allBlank

theorem ignoresEnd_isVisible : IgnoresEnd isVisible where
  nil := rfl
  append_blank hblanks := by
    rw [isVisible, isVisible, allBlank, List.all_append, List.all_eq_true.2 hblanks, Bool.and_true,
      ← allBlank]

/-- Blank characters in front show nothing. -/
theorem isVisible_trimStart (line : Text) : isVisible line.trimStart = isVisible line := by
  obtain ⟨blanks, hline, hblanks⟩ := List.exists_append_dropWhile isBlank line
  conv => rhs; rw [hline]
  rw [isVisible, isVisible, allBlank, allBlank, List.all_append, List.all_eq_true.2 hblanks,
    Bool.true_and]
  rfl

/-- Stripping leaves as many lines that show something. -/
theorem countP_isVisible_stripLinesAfterLinks (inFence strip : Bool) (lines : List Text) :
    (stripLinesAfterLinks inFence strip lines).countP isVisible = lines.countP isVisible := by
  induction lines generalizing inFence strip with
  | nil => rfl
  | cons line rest ih =>
    obtain ⟨shown, hshown, heq⟩ := stripLinesAfterLinks_cons inFence strip line rest
    have hsame : isVisible shown = isVisible line := by
      rw [hshown]
      split
      · exact isVisible_trimStart line
      · rfl
    rw [heq, List.countP_cons, List.countP_cons, ih, hsame]

/-- A text that shows something has a line that does. -/
theorem lineCount_isVisible_pos {s : Text} {x : Char} (hx : x ∈ s) (hvisible : isBlank x = false) :
    0 < lineCount isVisible s := by
  obtain ⟨line, hline, hmem⟩ := exists_mem_splitOn hx (ne_of_visible (c := '\n') hvisible rfl)
  refine List.countP_pos_iff.2 ⟨line, hline, ?_⟩
  rw [isVisible, allBlank, Bool.not_eq_true', List.all_eq_false]
  exact ⟨x, hmem, by simp [hvisible]⟩

/-- Something shows behind a line break that trimming the end leaves. -/
theorem exists_visible_behind_newline {s : Text} (h : '\n' ∈ s.trimEnd) :
    ∃ first rest x, s.trimEnd = first ++ '\n' :: rest ∧ x ∈ rest ∧ isBlank x = false := by
  obtain ⟨start, last, hend, hvisible⟩ := exists_trimEnd_eq_concat (List.ne_nil_of_mem h)
  obtain ⟨first, rest, hsplit, -⟩ := List.eq_append_cons_of_mem h
  refine ⟨first, rest, last, hsplit, ?_, hvisible⟩
  rcases List.eq_nil_or_concat' rest with rfl | ⟨init, final, rfl⟩
  · -- the last character would be the line break, which does not show
    have hlast := List.singleton_inj.1 (List.append_inj' (hend.symm.trans hsplit) rfl).2
    exact absurd hlast (ne_of_visible hvisible rfl)
  · rw [hend, ← List.cons_append, ← List.append_assoc] at hsplit
    obtain rfl := List.singleton_inj.1 (List.append_inj' hsplit rfl).2
    exact List.mem_append_right init (List.mem_singleton_self last)

/-- The first character is not stripped. -/
theorem exists_stripAfterLinks_eq_cons {x : Char} (hx : x ≠ '\n') (rest : Text) :
    ∃ more, stripAfterLinks (x :: rest) = x :: more := by
  obtain ⟨first, others, hrest⟩ := List.exists_cons_of_ne_nil (Text.splitOn_ne_nil '\n' rest)
  have hlines : Text.splitOn '\n' (x :: rest) = (x :: first) :: others := by
    rw [Text.splitOn, if_neg hx, hrest]
  obtain ⟨shown, rfl, heq⟩ := stripLinesAfterLinks_cons false false (x :: first) others
  rw [stripAfterLinks, hlines, heq, if_neg Bool.false_ne_true]
  by_cases hothers : others = []
  · subst hothers
    exact ⟨first, rfl⟩
  · rw [Text.joinWith_cons (stripLinesAfterLinks_ne_nil hothers)]
    exact ⟨_, rfl⟩

/-- The document of a text that begins visibly has as many lines that show something as the
text. -/
theorem layout_ofText_visible_cons {x : Char} (hx : isBlank x = false) (rest : Text) :
    layout (ofText (x :: rest)) [] = limitNewlines 0 (stripAfterLinks (x :: rest)).trimEnd ∧
      lineCount isVisible (layout (ofText (x :: rest)) []) = lineCount isVisible (x :: rest) := by
  obtain ⟨more, hstrip⟩ := exists_stripAfterLinks_eq_cons (ne_of_visible hx rfl) rest
  have heq : layout (ofText (x :: rest)) [] =
      limitNewlines 0 (stripAfterLinks (x :: rest)).trimEnd := by
    rw [layout_ofText, hstrip, trimDocument_visible_cons hx]
  refine ⟨heq, ?_⟩
  rw [heq, lineCount_limitNewlines ignoresEnd_isVisible, lineCount_trimEnd ignoresEnd_isVisible,
    lineCount, splitOn_stripAfterLinks, countP_isVisible_stripLinesAfterLinks, ← lineCount]

end Layout

namespace Render

/-- The text of a heading, with its content as a reader sees it. -/
def headingText (level : Nat) (text : Text) : Text :=
  List.replicate level '#' ++ ' ' :: text

variable {c : Conversion} {content : Content} {level : Nat} {s : RenderState}

/-- If no footnote waits, none stands in front of the heading, though an empty region may. -/
theorem heading_cases (hpending : s.footnotes.pending = []) :
    (heading c content level s).1 = headingLine content level ∨
      (heading c content level s).1 = paragraphRegion [] ++ headingLine content level := by
  rw [heading]
  split
  · refine .inr ?_
    have hnone : (flushFootnotes c s.headingMark { s with headingMark := 0 }).1 = [] := by
      rw [flushFootnotes]
      split
      · simp [Footnotes.oldest, hpending, footnoteLines]
      · rfl
    show paragraphRegion (flushFootnotes c s.headingMark { s with headingMark := 0 }).1 ++
      headingLine content level = _
    rw [hnone]
  · exact .inl rfl

/-- Laid out, the line of a heading is its text. -/
theorem laidOut_headingLine (hcontent : content.Prose) (level : Nat) :
    (headingLine content level).layoutParagraphs.resolveHardBreaks =
      ofText (headingText level content.trim.visibleText ++ ['\n', '\n']) := by
  have hline : (headingLine content level).Prose :=
    ((Prose.ofText _).append hcontent.trim).append (.ofText _)
  rw [layoutParagraphs_of_not_mem hline.boundary_not_mem, hline.resolveHardBreaks_eq, headingLine,
    visibleText_append, visibleText_append, visibleText_ofText, visibleText_ofText, headingText]
  simp

/-- What a heading makes is the document of its text. -/
theorem layout_heading_eq (hcontent : content.Prose) (hpending : s.footnotes.pending = []) :
    layout (heading c content level s).1 [] =
      layout (ofText (headingText level content.trim.visibleText)) [] := by
  -- an empty region in front is two newlines more, and they are trimmed
  have hline := laidOut_headingLine hcontent level
  obtain h | h : (heading c content level s).1 = headingLine content level ∨
      (heading c content level s).1 = paragraphRegion [] ++ headingLine content level :=
    heading_cases hpending
  · rw [h, layout_of_laidOut hline, layout_ofText_append_blank (by simp [isBlank])]
  · have hregion :
        (paragraphRegion [] ++ headingLine content level).layoutParagraphs.resolveHardBreaks =
          ofText ('\n' :: '\n' :: headingText level content.trim.visibleText ++ ['\n', '\n']) := by
      rw [layoutParagraphs_append ⟨1, rfl⟩, resolveHardBreaks, List.map_append,
        ← resolveHardBreaks, ← resolveHardBreaks, hline]
      rfl
    rw [h, layout_of_laidOut hregion, layout_ofText_append_blank (by simp [isBlank]),
      layout_ofText_newline_cons, layout_ofText_newline_cons]

/-- What is appended to a heading is appended to its text. -/
theorem headingText_append (level : Nat) (text more : Text) :
    headingText level (text ++ more) = headingText level text ++ more := by
  simp [headingText]

/-- The text with spaces in place of its line breaks. -/
def onOneLine (text : Text) : Text :=
  text.map fun x => if x = '\n' then ' ' else x

theorem onOneLine_append (text more : Text) :
    onOneLine (text ++ more) = onOneLine text ++ onOneLine more :=
  List.map_append

/-- The text is on one line then. -/
theorem newline_not_mem_onOneLine (text : Text) : '\n' ∉ onOneLine text := by
  intro h
  obtain ⟨x, -, hx⟩ := List.mem_map.1 h
  split at hx
  · cases hx
  · rename_i hne
    exact hne hx

/-- A text on one line stays as it is. -/
theorem onOneLine_of_not_mem {text : Text} (h : '\n' ∉ text) : onOneLine text = text := by
  have hsame : ∀ x ∈ text, (if x = '\n' then ' ' else x) = x := by
    intro x hx
    refine if_neg ?_
    rintro rfl
    exact h hx
  rw [onOneLine, List.map_congr_left hsame, List.map_id']

/-- The mark of a heading is on one line. -/
theorem newline_not_mem_headingText {text : Text} (h : '\n' ∉ text) (level : Nat) :
    '\n' ∉ headingText level text := by
  simp [headingText, h]

/-- The document of a heading's text. -/
theorem layout_headingText (level : Nat) (text : Text) :
    layout (ofText (headingText (level + 1) text)) [] =
        limitNewlines 0 (stripAfterLinks (headingText (level + 1) text)).trimEnd ∧
      lineCount isVisible (layout (ofText (headingText (level + 1) text)) []) =
        lineCount isVisible (headingText (level + 1) text) :=
  layout_ofText_visible_cons (x := '#') (by decide) (headingText level text)

/-- Blank characters at the end of a heading go. -/
theorem layout_headingText_append_blank {blanks : Text} (hblanks : ∀ x ∈ blanks, isBlank x)
    (level : Nat) (text : Text) :
    layout (ofText (headingText level (text ++ blanks))) [] =
      layout (ofText (headingText level text)) [] := by
  rw [headingText_append, layout_ofText_append_blank hblanks]

/-- A text without a line break makes one line. -/
theorem layout_headingText_of_not_mem {text : Text} (h : '\n' ∉ text) (level : Nat) :
    layout (ofText (headingText (level + 1) text)) [] = (headingText (level + 1) text).trimEnd := by
  have hnone := newline_not_mem_headingText h (level + 1)
  have hstrip : stripAfterLinks (headingText (level + 1) text) = headingText (level + 1) text := by
    rw [stripAfterLinks, splitOn_of_not_mem hnone]
    rfl
  have hend : '\n' ∉ (headingText (level + 1) text).trimEnd := fun hmem =>
    hnone ((trimEnd_isPrefix _).mem hmem)
  rw [(layout_headingText level text).1, hstrip, limitNewlines_of_not_mem hend]

/-- What shows behind a line break stands on a line of its own. -/
theorem newline_mem_layout_headingText {text : Text} (h : '\n' ∈ text.trimEnd) (level : Nat) :
    '\n' ∈ layout (ofText (headingText (level + 1) text)) [] := by
  obtain ⟨blanks, htext, hblanks⟩ := exists_trimEnd_append text
  obtain ⟨first, rest, last, hsplit, hlast, hvisible⟩ := exists_visible_behind_newline h
  -- the heading's first line shows its mark, and a line behind it the last character
  have hlines : 2 ≤ lineCount isVisible (headingText (level + 1) text.trimEnd) := by
    have hhash : '#' ∈ headingText (level + 1) first := by simp [headingText]
    have hfirst := lineCount_isVisible_pos hhash (by decide)
    have hrest := lineCount_isVisible_pos hlast hvisible
    rw [hsplit, headingText_append, lineCount_append_cons]
    omega
  rw [htext, layout_headingText_append_blank hblanks]
  -- on one line, the document could not show as many
  by_contra hnone
  have hone : lineCount isVisible (headingText (level + 1) text.trimEnd) ≤ 1 := by
    rw [← (layout_headingText level text.trimEnd).2, lineCount, splitOn_of_not_mem hnone]
    exact List.countP_le_length
  omega

/-- If nothing shows behind a line break, the line breaks might as well be spaces. -/
theorem layout_headingText_onOneLine {text : Text} (h : '\n' ∉ text.trimEnd) (level : Nat) :
    layout (ofText (headingText (level + 1) text)) [] =
      (headingText (level + 1) (onOneLine text)).trimEnd := by
  obtain ⟨blanks, htext, hblanks⟩ := exists_trimEnd_append text
  -- the line breaks at the end become spaces, and go as well
  have hspaces : ∀ x ∈ onOneLine blanks, isBlank x := by
    intro x hx
    obtain ⟨y, hy, rfl⟩ := List.mem_map.1 hx
    split
    · decide
    · exact hblanks y hy
  calc layout (ofText (headingText (level + 1) text)) []
      = (headingText (level + 1) text.trimEnd).trimEnd := by
        conv => lhs; rw [htext]
        rw [layout_headingText_append_blank hblanks, layout_headingText_of_not_mem h]
    _ = (headingText (level + 1) (text.trimEnd ++ onOneLine blanks)).trimEnd := by
        rw [headingText_append, trimEnd_append_blank hspaces]
    _ = (headingText (level + 1) (onOneLine text)).trimEnd := by
        conv => rhs; rw [htext]
        rw [onOneLine_append, onOneLine_of_not_mem h]

/-- A heading is one line, its content with spaces for its line breaks, exactly if nothing shows
behind a line break.  Else the document has more than one line: as many that show something as the
text of the heading. -/
theorem layout_heading (c : Conversion) (hcontent : content.Prose) (hlevel : 0 < level)
    (hpending : s.footnotes.pending = []) :
    let text := content.trim.visibleText
    let document := layout (heading c content level s).1 []
    document = limitNewlines 0 (stripAfterLinks (headingText level text)).trimEnd ∧
      lineCount isVisible document = lineCount isVisible (headingText level text) ∧
      ('\n' ∈ document ↔ '\n' ∈ text.trimEnd) ∧
      (document = (headingText level (onOneLine text)).trimEnd ↔ '\n' ∉ text.trimEnd) := by
  intro text document
  have hdocument : document = layout (ofText (headingText level text)) [] :=
    layout_heading_eq hcontent hpending
  clear_value document text
  subst hdocument
  -- the first `#` is what the document begins with
  obtain ⟨level, rfl⟩ := Nat.exists_eq_succ_of_ne_zero (Nat.ne_of_gt hlevel)
  obtain ⟨heq, hcount⟩ := layout_headingText level text
  have hone (h : layout (ofText (headingText (level + 1) text)) [] =
      (headingText (level + 1) (onOneLine text)).trimEnd) :
      '\n' ∉ layout (ofText (headingText (level + 1) text)) [] := fun hmem => by
    rw [h] at hmem
    exact newline_not_mem_headingText (newline_not_mem_onOneLine text) (level + 1)
      ((trimEnd_isPrefix _).mem hmem)
  refine ⟨heq, hcount, ⟨fun h => ?_, (newline_mem_layout_headingText · level)⟩,
    ⟨fun h hmem => ?_, (layout_headingText_onOneLine · level)⟩⟩
  · by_contra hnone
    exact hone (layout_headingText_onOneLine hnone level) h
  · exact hone h (newline_mem_layout_headingText hmem level)

/-- Line breaks at the end do no harm. -/
theorem layout_heading_trailing :
    (ofText "a b".toList ++ [Atom.hardBreak, .hardBreak]).Prose ∧ 0 < 2 ∧
      RenderState.initial.footnotes.pending = [] ∧
      layout (heading .standard (ofText "a b".toList ++ [Atom.hardBreak, .hardBreak]) 2
          .initial).1 [] = "## a b".toList ∧
      ('\n' ∈ layout (heading .standard (ofText "a b".toList ++ [Atom.hardBreak, .hardBreak]) 2
          .initial).1 [] ↔
        '\n' ∈ (ofText "a b".toList ++ [Atom.hardBreak, .hardBreak]).trim.visibleText.trimEnd) := by
  have hcontent : (ofText "a b".toList ++ [Atom.hardBreak, .hardBreak]).Prose :=
    (Prose.ofText _).append (by simp [Prose])
  exact ⟨hcontent, by decide, rfl, by decide,
    (layout_heading .standard hcontent (by decide) rfl).2.2.1⟩

/-- A line break within the content ends the heading, and what follows is no part of it. -/
theorem breaks_heading_line :
    layout (heading .standard (ofText "a\nb".toList) 1 .initial).1 [] = "# a\nb".toList ∧
      layout (heading .standard (ofText ['a'] ++ [Atom.hardBreak] ++ ofText ['b']) 1 .initial).1
        [] = "# a\nb".toList ∧
      (headingText 1 (onOneLine "a\nb".toList)).trimEnd = "# a b".toList := by
  decide

end Render

end Gemtext
