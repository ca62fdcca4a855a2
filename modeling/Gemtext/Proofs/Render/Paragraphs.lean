import Gemtext.Proofs.Render.Headings

/-!
# Paragraphs as documents

A paragraph of text is laid out on one line, with an empty line behind it.  The later passes find
nothing to do between such lines but to take away the empty ones: none of them is indented, so the
stripping pass leaves them alone even where a paragraph reads like a link line or a fence.  So
paragraphs become their lines, parted by one blank line each, and blank paragraphs leave no trace
(`layout_paragraphs`).
-/

namespace Gemtext

open Text Content Layout

namespace Render

/-! ## The line of a paragraph -/

/-- The line of a paragraph: its text, trimmed, with a space for each of its line ends. -/
def paragraphLine (text : Text) : Text :=
  onOneLine text.trim.unifyNewlines

/-- In a text, a space takes the place of each line end. -/
theorem newlinesToSpaces_ofText (s : Text) :
    (ofText s).newlinesToSpaces = ofText (onOneLine s.unifyNewlines) := by
  fun_induction Text.unifyNewlines s with
  | case1 => rfl
  | case2 rest ih =>
    show Atom.char ' ' :: (ofText rest).newlinesToSpaces = _
    rw [ih]
    rfl
  | case3 c rest hc ih =>
    -- a return in front of a newline would have been read with it
    have hatom : ∀ more, Atom.char c = .char '\r' → ofText rest ≠ .char '\n' :: more := by
      rintro more hreturn hmore
      cases rest with
      | nil => cases hmore
      | cons d tail =>
        exact hc tail (Atom.char.inj hreturn) (by rw [Atom.char.inj (List.cons.inj hmore).1])
    show newlinesToSpaces (Atom.char c :: ofText rest) = _
    rw [newlinesToSpaces, ih]
    · by_cases hn : c = '\n' <;> simp [onOneLine, ofText, hn]
    · exact hatom

/-- A paragraph of text is laid out as its line, with an empty one behind it. -/
theorem layoutParagraph_ofText (text : Text) :
    layoutParagraph (ofText text) = ofText (paragraphLine text ++ ['\n', '\n']) := by
  rw [layoutParagraph, trim_ofText, newlinesToSpaces_ofText, ← ofText_append, paragraphLine]

/-- A visible character is none of those that spaces take the place of. -/
theorem framed_onOneLine {s : Text} (h : Framed s) : Framed (onOneLine s) where
  first := by
    obtain ⟨c, rest, rfl, hc⟩ := h.first
    exact ⟨c, onOneLine rest, by simp [onOneLine, ne_of_visible (c := '\n') hc rfl], hc⟩
  last := by
    obtain ⟨start, c, rfl, hc⟩ := h.last
    exact ⟨onOneLine start, c, by simp [onOneLine, ne_of_visible (c := '\n') hc rfl], hc⟩

/-- The line of a paragraph begins and ends visibly, unless it is empty. -/
theorem framed_paragraphLine {text : Text} (h : paragraphLine text ≠ []) :
    Framed (paragraphLine text) := by
  have htrim : text.trim ≠ [] := fun hnil => h (by rw [paragraphLine, hnil]; rfl)
  exact framed_onOneLine (framed_trim htrim).unifyNewlines

/-! ## Lines with empty lines behind them -/

/-- The lines, each with an empty line behind it. -/
def spaced (lines : List Text) : Text :=
  lines.flatMap (· ++ ['\n', '\n'])

variable {lines : List Text}

theorem spaced_cons (line : Text) (lines : List Text) :
    spaced (line :: lines) = line ++ '\n' :: '\n' :: spaced lines := by
  simp [spaced]

/-- The lines of spaced lines are these and empty ones. -/
theorem mem_splitOn_spaced (h : ∀ line ∈ lines, '\n' ∉ line) {piece : Text}
    (hpiece : piece ∈ splitOn '\n' (spaced lines)) : piece = [] ∨ piece ∈ lines := by
  induction lines with
  | nil => exact .inl (List.mem_singleton.1 hpiece)
  | cons line others ih =>
    obtain ⟨hline, hothers⟩ := List.forall_mem_cons.1 h
    have hsplit : splitOn '\n' (spaced (line :: others)) =
        line :: [] :: splitOn '\n' (spaced others) := by
      rw [spaced_cons]
      exact splitOn_piece_cons hline _
    rw [hsplit, List.mem_cons, List.mem_cons] at hpiece
    rcases hpiece with rfl | rfl | hpiece
    · exact .inr List.mem_cons_self
    · exact .inl rfl
    · exact (ih hothers hpiece).imp_right (List.mem_cons_of_mem line)

/-- Behind two newlines, the empty ones of spaced lines are taken away. -/
theorem limitNewlines_spaced (h : ∀ line ∈ lines, '\n' ∉ line) :
    limitNewlines 2 (spaced lines) = spaced (lines.filter (!·.isEmpty)) := by
  induction lines with
  | nil => rfl
  | cons line others ih =>
    obtain ⟨hline, hothers⟩ := List.forall_mem_cons.1 h
    rw [spaced_cons, List.filter_cons]
    by_cases hempty : line = []
    · subst hempty
      exact ih hothers
    · rw [limitNewlines_append hline hempty, if_pos (by simpa using hempty), spaced_cons,
        ← ih hothers]
      rfl

/-- Without the blank line at the end, spaced lines are joined by blank lines. -/
theorem trimEnd_spaced (h : ∀ line ∈ lines, Framed line) :
    (spaced lines).trimEnd = Text.joinWith ['\n', '\n'] lines := by
  by_cases hnone : lines = []
  · subst hnone
    rfl
  · -- the empty line behind the last line goes
    have hjoin : spaced lines = Text.joinWith ['\n', '\n'] lines ++ ['\n', '\n'] := by
      clear h
      induction lines with
      | nil => exact absurd rfl hnone
      | cons line others ih =>
        by_cases hothers : others = []
        · subst hothers
          rw [spaced_cons]
          rfl
        · rw [spaced_cons, ih hothers, Text.joinWith_cons hothers]
          simp
    have hframed : Framed (Text.joinWith ['\n', '\n'] lines) := .joinWith hnone h _
    obtain ⟨start, last, hlast, hvisible⟩ := hframed.last
    rw [hjoin, trimEnd_append_blank (by simp [isBlank]), hlast, trimEnd_append_cons hvisible]
    rfl

/-- The document of spaced lines that begin and end visibly, or are empty. -/
theorem layout_spaced (h : ∀ line ∈ lines, '\n' ∉ line ∧ (line ≠ [] → Framed line)) :
    layout (ofText (spaced lines)) [] =
      Text.joinWith ['\n', '\n'] (lines.filter (!·.isEmpty)) := by
  induction lines with
  | nil => rfl
  | cons line others ih =>
    by_cases hempty : line = []
    · -- an empty line in front is trimmed, with the one behind it
      subst hempty
      rw [List.filter_cons_of_neg (by simp), ← ih (List.forall_mem_cons.1 h).2]
      exact (layout_ofText_newline_cons _).trans (layout_ofText_newline_cons _)
    · obtain ⟨c, rest, hspaced, hc⟩ :
          ∃ c rest, spaced (line :: others) = c :: rest ∧ isBlank c = false := by
        obtain ⟨c, rest, hline, hc⟩ := ((h line List.mem_cons_self).2 hempty).first
        exact ⟨c, rest ++ '\n' :: '\n' :: spaced others, by rw [spaced_cons, hline]; rfl, hc⟩
      generalize line :: others = lines at h hspaced
      have hnewline : ∀ line ∈ lines, '\n' ∉ line := fun line hline => (h line hline).1
      -- no line is indented, so that the stripping pass has nothing to do
      have hstrip : stripAfterLinks (spaced lines) = spaced lines := by
        refine stripAfterLinks_of_unindented fun piece hpiece => ?_
        by_cases hnil : piece = []
        · rw [hnil]
          rfl
        · have hmem := (mem_splitOn_spaced hnewline hpiece).resolve_left hnil
          exact isIndented_of_framed ((h piece hmem).2 hnil)
      have hlimit : limitNewlines 0 (spaced lines) = limitNewlines 2 (spaced lines) := by
        rw [hspaced]
        simp [limitNewlines, ne_of_visible (c := '\n') hc rfl]
      have hframed : ∀ line ∈ lines.filter (!·.isEmpty), Framed line := fun line hline => by
        obtain ⟨hmem, hne⟩ := List.mem_filter.1 hline
        exact (h line hmem).2 (by simpa using hne)
      calc layout (ofText (spaced lines)) []
          = limitNewlines 0 (spaced lines).trimEnd := by
            rw [layout_ofText, hstrip, hspaced, trimDocument_visible_cons hc]
        _ = (limitNewlines 2 (spaced lines)).trimEnd := by rw [limitNewlines_trimEnd, hlimit]
        _ = _ := by rw [limitNewlines_spaced hnewline, trimEnd_spaced hframed]

/-! ## Paragraphs in a row -/

/-- Paragraphs of text, as fragments. -/
def paragraphs (texts : List Text) : List Fragment :=
  texts.flatMap fun text => [.boundary, .text text, .boundary]

/-- A text between boundaries is a paragraph. -/
theorem ofFragments_paragraph (text : Text) :
    ofFragments [.boundary, .text text, .boundary] = paragraphRegion (ofText text) := by
  simp [ofFragments, Fragment.atoms, paragraphRegion]

/-- A region that is not closed runs to the end. -/
theorem layoutParagraphs_boundary_cons {c : Content} (h : .boundary ∉ c) :
    layoutParagraphs (.boundary :: c) = layoutParagraph c := by
  have hsplit : Content.splitOn .boundary (.boundary :: c) = [[], c] := by
    rw [Content.splitOn, if_pos rfl, Content.splitOn_eq_list, List.splitOn_eq_singleton h]
  rw [layoutParagraphs, hsplit]
  exact List.append_nil _

/-- Laid out, paragraphs are their lines, spaced. -/
theorem layoutParagraphs_paragraphs_append (texts : List Text) (rest : List Fragment) :
    (ofFragments (paragraphs texts ++ rest)).layoutParagraphs =
      ofText (spaced (texts.map paragraphLine)) ++ (ofFragments rest).layoutParagraphs := by
  induction texts with
  | nil => rfl
  | cons text texts ih =>
    have hcons : ofFragments (paragraphs (text :: texts) ++ rest) =
        paragraphRegion (ofText text) ++ ofFragments (paragraphs texts ++ rest) := by
      rw [paragraphs, List.flatMap_cons, ← paragraphs, List.append_assoc, ofFragments,
        List.flatMap_append, ← ofFragments, ← ofFragments, ofFragments_paragraph]
    -- the layout is outside a region behind each paragraph
    have heven : Even ((paragraphRegion (ofText text)).count .boundary) :=
      (Paired.ofText text).paragraphRegion.even
    rw [hcons, layoutParagraphs_append heven, ih,
      layoutParagraphs_paragraphRegion (Prose.ofText text).boundary_not_mem, ← layoutParagraph,
      layoutParagraph_ofText, List.map_cons, spaced_cons]
    simp [ofText]

/-- It does not matter whether the last paragraph is closed. -/
theorem layoutParagraphs_dropLast_paragraphs (texts : List Text) :
    (ofFragments (paragraphs texts).dropLast).layoutParagraphs =
      (ofFragments (paragraphs texts)).layoutParagraphs := by
  rcases List.eq_nil_or_concat' texts with rfl | ⟨texts, text, rfl⟩
  · rfl
  · have hconcat : paragraphs (texts ++ [text]) =
        paragraphs texts ++ [.boundary, .text text, .boundary] := by simp [paragraphs]
    -- a region that is open at the end is laid out as a closed one
    have hopen : (ofFragments [.boundary, .text text]).layoutParagraphs =
        (ofFragments [.boundary, .text text, .boundary]).layoutParagraphs := by
      have hnone : .boundary ∉ ofText text := (Prose.ofText text).boundary_not_mem
      rw [ofFragments_paragraph, layoutParagraphs_paragraphRegion hnone]
      exact (congrArg (layoutParagraphs <| .boundary :: ·) (List.append_nil _)).trans
        (layoutParagraphs_boundary_cons hnone)
    rw [hconcat, List.dropLast_append_of_ne_nil (List.cons_ne_nil _ _),
      layoutParagraphs_paragraphs_append, layoutParagraphs_paragraphs_append]
    exact congrArg _ hopen

/-- Paragraphs of text become their lines, parted by blank lines, without those of blank
paragraphs, be the last paragraph closed or not. -/
theorem layout_paragraphs (texts : List Text) :
    let document :=
      Text.joinWith ['\n', '\n'] ((texts.map paragraphLine).filter (!·.isEmpty))
    layout (ofFragments (paragraphs texts)) (ofFragments []) = document ∧
      layout (ofFragments (paragraphs texts).dropLast) (ofFragments []) = document := by
  -- the line of a paragraph is empty, or visible at both ends
  have hlines : ∀ line ∈ texts.map paragraphLine, '\n' ∉ line ∧ (line ≠ [] → Framed line) := by
    intro line hline
    obtain ⟨text, -, rfl⟩ := List.mem_map.1 hline
    exact ⟨newline_not_mem_onOneLine _, framed_paragraphLine⟩
  have hregions : (ofFragments (paragraphs texts)).layoutParagraphs =
      ofText (spaced (texts.map paragraphLine)) := by
    have h := layoutParagraphs_paragraphs_append texts []
    rw [List.append_nil] at h
    exact h.trans (List.append_nil _)
  -- empty paragraphs leave nothing but blank lines, which the limit takes away
  have hdocument {content : Content}
      (h : content.layoutParagraphs = ofText (spaced (texts.map paragraphLine))) :
      layout content [] =
        Text.joinWith ['\n', '\n'] ((texts.map paragraphLine).filter (!·.isEmpty)) := by
    rw [← layout_spaced hlines]
    refine layout_of_laidOut ?_
    rw [h, (Prose.ofText _).resolveHardBreaks_eq, visibleText_ofText]
  exact ⟨hdocument hregions,
    hdocument ((layoutParagraphs_dropLast_paragraphs texts).trans hregions)⟩

/-- A blank paragraph leaves no trace, and a line end is one space, whatever stands around it. -/
example :
    layout (ofFragments (paragraphs ["=> u\r\n  b".toList, " \n".toList, " c".toList]))
      (ofFragments []) = "=> u   b\n\nc".toList := by
  decide

end Render

end Gemtext
