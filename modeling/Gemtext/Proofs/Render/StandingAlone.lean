import Gemtext.Proofs.Render.TameStrings

/-!
# Contents that stand alone

A content `StandsAlone` if it leaves the layout as it found it: outside a paragraph region, behind
an ended line that is no link line, and outside a fence.  What is shown of two such contents in a
row is what is shown of the one and then of the other (`shownLines_layout_append`).

Every block that is a line of tame strings and every block between fences stands alone.
-/

namespace Gemtext

open Text Layout

namespace Content

/-- Laid out, the content leaves the layout as it found it. -/
structure StandsAlone (c : Content) : Prop where
  even : Even (c.count .boundary)
  ended : c.layoutParagraphs.resolveHardBreaks.Ended
  closed : Closed (isolateLinks c.layoutParagraphs.resolveHardBreaks)

namespace StandsAlone

variable {c d : Content}

theorem nil : StandsAlone [] := ⟨⟨0, rfl⟩, .inl rfl, .nil⟩

/-- What stands behind is laid out as by itself. -/
theorem layout_append (hc : StandsAlone c) (d : Content) :
    (c ++ d).layoutParagraphs.resolveHardBreaks =
      c.layoutParagraphs.resolveHardBreaks ++ d.layoutParagraphs.resolveHardBreaks := by
  rw [layoutParagraphs_append hc.even, resolveHardBreaks, List.map_append, ← resolveHardBreaks,
    ← resolveHardBreaks]

/-- Two such contents leave the layout as they found it. -/
theorem append (hc : StandsAlone c) (hd : StandsAlone d) : StandsAlone (c ++ d) where
  even := by
    rw [List.count_append]
    exact hc.even.add hd.even
  ended := by
    rw [hc.layout_append]
    exact hc.ended.append hd.ended
  closed := by
    rw [hc.layout_append, isolateLinks_append hc.ended]
    exact hc.closed.append hd.closed

/-- A content without boundaries and hard breaks is laid out as it is. -/
theorem of_unbroken (hnone : c.filter Atom.isBreak = []) (hended : c.Ended)
    (hclosed : Closed (isolateLinks c)) : StandsAlone c := by
  have hboundary := noBoundary_of_unbroken hnone
  have hlaid : c.layoutParagraphs.resolveHardBreaks = c := by
    rw [layoutParagraphs_of_not_mem hboundary, resolveHardBreaks_of_unbroken hnone]
  refine ⟨?_, by rwa [hlaid], by rwa [hlaid]⟩
  rw [List.count_eq_zero.2 hboundary]
  exact ⟨0, rfl⟩

/-- A blank line behind steady lines ends a content. -/
theorem of_blankLine {lines : Content} (heven : Even (c.count .boundary))
    (hlaid : c.layoutParagraphs.resolveHardBreaks = lines ++ ofText ['\n', '\n'])
    (hsteady : Steady lines.parted) : StandsAlone c where
  even := heven
  ended := by
    rw [hlaid]
    exact .inr ⟨lines ++ [.char '\n'], by simp [ofText]⟩
  closed := by
    obtain ⟨before, hbefore⟩ := isolateLinks_append_newline lines
    have hisolated : isolateLinks (lines ++ ofText ['\n', '\n']) = before ++ ['\n', '\n'] :=
      hbefore [.char '\n']
    rw [hlaid, hisolated]
    refine .of_steady ?_
    -- the blank line adds no unsteady line, be the lines in front of it text or link lines
    rw [← hisolated, Steady, lineCount_isolateLinks ignoresEnd_isUnsteady, parted_append,
      parted_ofText,
      lineCount_append_blank ignoresEnd_isUnsteady (List.all_eq_true.1 (by decide))]
    exact hsteady

/-- A region is laid out on one line, but for its hard breaks. -/
theorem paragraphRegion (hnone : .boundary ∉ c)
    (hsteady : Steady (parted c.trim.newlinesToSpaces.resolveHardBreaks)) :
    StandsAlone (Render.paragraphRegion c) := by
  refine .of_blankLine ?_ ?_ hsteady
  · simp only [Render.paragraphRegion, List.cons_append, List.count_cons, List.count_append,
      List.count_eq_zero.2 hnone]
    exact ⟨1, rfl⟩
  · rw [layoutParagraphs_paragraphRegion hnone, resolveHardBreaks, List.map_append]
    rfl

/-- A steady line with a blank one behind it stands alone. -/
theorem append_blankLine (hnone : .boundary ∉ c) (hsteady : Steady (parted c.resolveHardBreaks)) :
    StandsAlone (c ++ ofText ['\n', '\n']) := by
  have hboundary : .boundary ∉ c ++ ofText ['\n', '\n'] := by simp [hnone, ofText]
  refine .of_blankLine ?_ ?_ hsteady
  · rw [List.count_eq_zero.2 hboundary]
    exact ⟨0, rfl⟩
  · rw [layoutParagraphs_of_not_mem hboundary, resolveHardBreaks, List.map_append]
    rfl

end StandsAlone

/-- Without boundaries, both put newlines in place of hard breaks. -/
theorem resolveHardBreaks_eq_flattenBlocks {c : Content} (hnone : .boundary ∉ c) :
    c.resolveHardBreaks = c.flattenBlocks := by
  refine List.map_congr_left fun atom hatom => ?_
  cases atom with
  | boundary => exact absurd hatom hnone
  | char x => exact if_neg nofun
  | _ => rfl

namespace BlandLine

variable {c : Content}

/-- A bland line is steady. -/
theorem steady (h : BlandLine c) : Steady (parted c.resolveHardBreaks) := by
  rw [resolveHardBreaks_eq_flattenBlocks h.noBoundary]
  exact h.bland.steady

/-- A bland paragraph stands alone. -/
theorem standsAlone_paragraphRegion (h : BlandLine c) : StandsAlone (Render.paragraphRegion c) :=
  .paragraphRegion h.noBoundary h.trim.newlinesToSpaces.steady

/-- So does a bland line with a blank one behind it. -/
theorem standsAlone_append_blankLine (h : BlandLine c) :
    StandsAlone (c ++ Content.ofText ['\n', '\n']) :=
  .append_blankLine h.noBoundary h.steady

end BlandLine

end Content

/-! ## Blocks -/

namespace Render

open Content

variable {c : Conversion} {content : Content} {s : RenderState}

/-- The line of a heading is bland if its content is. -/
theorem blandLine_heading (level : Nat) (hcontent : BlandLine content) :
    BlandLine (ofText (List.replicate level '#' ++ [' ']) ++ content.trim) :=
  (BlandLine.ofText_of_isTame (isTame_iff.2 (by simp))).append hcontent.trim

/-- A rule is bland. -/
theorem blandLine_dashes : BlandLine (ofText (List.replicate 80 '-')) :=
  .ofText_of_isTame (isTame_iff.2 (by simp))

theorem thematicBreak_eq :
    thematicBreak = ofText (List.replicate 80 '-') ++ ofText ['\n', '\n'] := by
  rw [thematicBreak, ofText, List.map_append, ← ofText, ← ofText]

/-- A block between fences ends with a newline. -/
theorem ended_preformatted (tag body : Text) : (preformatted tag body).Ended :=
  .inr ⟨ofText (codeFence ++ tag ++ '\n' :: body ++ '\n' :: codeFence ++ ['\n']),
    by simp [preformatted, ofText]⟩

/-- A block between fences, no line of which is unsteady. -/
theorem standsAlone_preformatted {tag body : Text} (htag : tag.isTame)
    (hbody : ∀ line ∈ Text.splitOn '\n' body, isUnsteady line = false) :
    StandsAlone (preformatted tag body) := by
  refine .of_unbroken (filter_ofText (fun _ => rfl) _) (ended_preformatted tag body) ?_
  -- a tag may have more than one line; those behind the first stand within the fences
  obtain ⟨first, others, htagLines⟩ := List.exists_cons_of_ne_nil (splitOn_ne_nil '\n' tag)
  have hopen : isFence (codeFence ++ first) :=
    isFence_append (show isFence codeFence from rfl) first
  have hshape : codeFence ++ tag ++ '\n' :: body ++ '\n' :: codeFence ++ ['\n', '\n'] =
      (codeFence ++ tag) ++ '\n' :: (body ++ '\n' :: (codeFence ++ ['\n', '\n'])) := by simp
  have hfirst : Text.splitOn '\n' (codeFence ++ tag) = (codeFence ++ first) :: others := by
    simp [Text.splitOn, htagLines, codeFence]
  rw [preformatted, isolateLinks_ofText, hshape]
  have hsplit : Text.splitOn '\n'
      ((codeFence ++ tag) ++ '\n' :: (body ++ '\n' :: (codeFence ++ ['\n', '\n']))) =
      (codeFence ++ first) :: (others ++ Text.splitOn '\n' body) ++ [codeFence, []] ++ [[]] := by
    rw [Text.splitOn_append_cons, Text.splitOn_append_cons, hfirst]
    simp [Text.splitOn, codeFence]
  refine .of_preformatted hopen (show isFence codeFence from rfl) hsplit fun line hline => ?_
  rcases List.mem_append.1 hline with hline | hline
  · exact (Bland.of_isTame htag).steady.isUnsteady_of_mem
      (htagLines ▸ List.mem_cons_of_mem first hline)
  · exact hbody line hline

/-- A code block with tame strings stands alone. -/
theorem standsAlone_codeBlock (hc : c.Tame) {code : Text} {info : Option Text} (hcode : code.isTame)
    (hinfo : ∀ text, info = some text → text.isTame) : StandsAlone (codeBlock c code info) := by
  refine standsAlone_preformatted ?_ fun line => (Bland.of_isTame ?_).steady.isUnsteady_of_mem
  · cases htag : (info.map Text.trim).filter (!·.isEmpty) with
    | none => exact hc.codeTag
    | some tag =>
      obtain ⟨hmap, -⟩ := Option.filter_eq_some_iff.1 htag
      obtain ⟨text, htext, rfl⟩ := Option.map_eq_some_iff.1 hmap
      exact isTame_trim (hinfo text htext)
  · exact isTame_of_subset
      (fun _ h => mem_of_mem_dropFinalNewline (mem_of_mem_dropFinalNewline h)) hcode

/-- So does raw markup. -/
theorem standsAlone_htmlBlock (hc : c.Tame) {html : Text} (hhtml : html.isTame) :
    StandsAlone (Render.htmlBlock c html) := by
  unfold Render.htmlBlock
  split
  · exact .of_unbroken rfl (.inr ⟨[], rfl⟩) ⟨⟨[[]], rfl, rfl⟩, by decide⟩
  · refine standsAlone_codeBlock hc hhtml fun text htext => ?_
    rw [← Option.some.inj htext]
    decide

/-- So does a drawn table, with bland link lines behind it. -/
theorem standsAlone_table (hc : c.Tame) (hs : s.FramedTable) (hlinks : TableLinksOnly s)
    (hbland : BlandLinks s.tableLinks) {drawn : Content} {s' : RenderState}
    (h : table c s = (.ok drawn, s')) : StandsAlone drawn := by
  rcases table_eq_ok hs h with rfl | ⟨text, rfl, hlines⟩
  · exact .nil
  · refine StandsAlone.append (standsAlone_preformatted hc.tableTag fun line hline => ?_) ?_
    · rcases hlines line hline with rfl | ⟨x, rest, rfl, hvisible, hne⟩
      · rfl
      · exact isUnsteady_visible_cons hvisible hne rest
    · split
      · exact .nil
      · exact (BlandLine.of_isLink hlinks hbland).standsAlone_append_blankLine

end Render

open Content in
/-- What is shown of two contents that stand alone does not depend on one another. -/
theorem shownLines_layout_append {c d : Content} (hc : StandsAlone c) (hd : StandsAlone d) :
    (layout (c ++ d) []).shownLines = (layout c []).shownLines ++ (layout d []).shownLines := by
  simp only [layout, List.append_nil]
  rw [hc.layout_append, isolateLinks_append hc.ended]
  exact hc.closed.shownLines_passes_append hd.closed.steady

end Gemtext
