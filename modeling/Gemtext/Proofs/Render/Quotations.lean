import Gemtext.Proofs.Content.Prose
import Gemtext.Proofs.Layout.Relayout
import Gemtext.Proofs.Layout.Seams
import Gemtext.Proofs.Render.Fences

/-!
# Quotations as documents

A quotation of text is laid out line by line: the lines of its content, trimmed and with no two
blank ones in a row (`bareLines`), each behind a marker.  The region around a quotation would put
its lines on one line, but hard breaks part them, and these survive (`layoutParagraphs_blockQuote`).
A quotation is itself made of text and hard breaks, and its bare lines are the marked ones, so that
quoting again puts one marker more in front of each line (`bareLines_iterate_blockQuote`).
-/

namespace Gemtext

open Text Content Layout

/-! ## Content of text, hard breaks and boundaries -/

namespace Content

variable {c d : Content}

/-- The content holds nothing but characters, hard breaks and paragraph boundaries. -/
def TextBlocks (c : Content) : Prop :=
  ∀ atom ∈ c, (∃ x, atom = .char x) ∨ atom = .hardBreak ∨ atom = .boundary

/-- Flattened, it is text. -/
theorem TextBlocks.flattenBlocks_eq (h : TextBlocks c) :
    c.flattenBlocks = ofText c.flattenBlocks.plainText := by
  induction c with
  | nil => rfl
  | cons atom rest ih =>
    obtain ⟨hatom, hrest⟩ := List.forall_mem_cons.1 h
    have htail := ih hrest
    obtain ⟨x, rfl⟩ | rfl | rfl := hatom
    · exact congrArg (Atom.char x :: ·) htail
    · exact congrArg (Atom.char '\n' :: ·) htail
    · exact congrArg (Atom.char '\n' :: ·) htail

/-- A region of text and hard breaks is such a content. -/
theorem Prose.textBlocks_paragraphRegion (h : Prose c) :
    TextBlocks (Render.paragraphRegion c) := by
  have hinner : TextBlocks c := fun atom hatom => (h atom hatom).imp_right .inl
  have hboundary : TextBlocks [.boundary] :=
    List.forall_mem_singleton.2 (.inr (.inr rfl))
  exact List.forall_mem_append.2 ⟨List.forall_mem_append.2 ⟨hboundary, hinner⟩, hboundary⟩

/-- Trimming leaves a content as it is that is laid out to a text which begins and ends visibly. -/
theorem trim_eq_self_of_framed {s : Text} (h : c.resolveHardBreaks = ofText s) (hs : Framed s) :
    c.trim = c := by
  -- a visible character of the text is one of the content
  have hvisible {atom : Atom} {x : Char} (hx : Gemtext.isBlank x = false)
      (hatom : (if atom = .hardBreak then .char '\n' else atom) = .char x) :
      ¬atom.isBlank := by
    cases atom with
    | char y =>
      obtain rfl : y = x := Atom.char.inj hatom
      exact fun hblank => by simp [Atom.isBlank, hx] at hblank
    | _ => exact Bool.false_ne_true
  have hstart : c.trimStart = c := by
    obtain ⟨x, rest, rfl, hx⟩ := hs.first
    obtain ⟨atom, more, rfl, hatom, -⟩ := List.map_eq_cons_iff.1 h
    exact List.dropWhile_cons_of_neg (hvisible hx hatom)
  have hend : c.trimEnd = c := by
    obtain ⟨start, x, rfl, hx⟩ := hs.last
    rw [ofText, List.map_append] at h
    obtain ⟨init, more, rfl, -, hmore⟩ := List.map_eq_append_iff.1 h
    obtain ⟨atom, rfl, hatom⟩ := List.map_eq_singleton_iff.1 hmore
    rw [trimEnd, List.reverse_append, List.reverse_singleton, List.singleton_append,
      List.dropWhile_cons_of_neg (hvisible hx hatom), List.reverse_cons, List.reverse_reverse]
  rw [trim, hstart, hend]

/-! ## Lines parted by hard breaks -/

/-- Lines with hard breaks between them are prose. -/
theorem prose_flatten_intersperse (lines : List Text) :
    Prose ((lines.map ofText).intersperse [.hardBreak]).flatten := by
  intro atom hatom
  rcases List.mem_flatten_intersperse hatom with hatom | ⟨piece, hpiece, hatom⟩
  · exact .inr (List.mem_singleton.1 hatom)
  · obtain ⟨line, -, rfl⟩ := List.mem_map.1 hpiece
    exact Prose.ofText line atom hatom

/-- A hard break is seen as a newline. -/
theorem visibleText_flatten_intersperse (lines : List Text) :
    visibleText ((lines.map ofText).intersperse [.hardBreak]).flatten =
      Text.joinWith ['\n'] lines := by
  induction lines with
  | nil => rfl
  | cons line rest ih =>
    -- a hard break stands behind every line but the last
    cases rest with
    | nil =>
      rw [List.map_singleton, List.intersperse_singleton, List.flatten_singleton,
        visibleText_ofText]
      rfl
    | cons next more =>
      rw [List.map_cons, List.map_cons, List.intersperse_cons_cons, ← List.map_cons,
        List.flatten_cons, List.flatten_cons, visibleText_append, visibleText_append,
        visibleText_ofText, ih, Text.joinWith_cons (List.cons_ne_nil next more),
        List.append_assoc]
      rfl

end Content

namespace Layout

/-- Lines that begin and end visibly are laid out to themselves. -/
theorem layout_joinWith_framed {lines : List Text}
    (h : ∀ line ∈ lines, Framed line ∧ '\n' ∉ line) :
    layout (ofText (Text.joinWith ['\n'] lines)) [] = Text.joinWith ['\n'] lines := by
  by_cases hnone : lines = []
  · rw [hnone]
    rfl
  · have hsplit : Text.splitOn '\n' (Text.joinWith ['\n'] lines) = lines :=
      Text.splitOn_joinWith hnone fun line hline => (h line hline).2
    have hframed : Framed (Text.joinWith ['\n'] lines) :=
      .joinWith hnone (fun line hline => (h line hline).1) _
    -- no line is indented
    have hstrip : stripAfterLinks (Text.joinWith ['\n'] lines) = Text.joinWith ['\n'] lines := by
      refine stripAfterLinks_of_unindented ?_
      rw [hsplit]
      exact fun line hline => isIndented_of_framed (h line hline).1
    -- no line is empty
    have hlimit : limitNewlines 0 (Text.joinWith ['\n'] lines) = Text.joinWith ['\n'] lines := by
      have hlines : ∀ line ∈ Text.splitOn '\n' (Text.joinWith ['\n'] lines), line ≠ [] := by
        rw [hsplit]
        exact fun line hline => (h line hline).1.ne_nil
      simpa [limitNewlines] using limitNewlines_block hlines 0 []
    rw [layout_ofText, hstrip, trimDocument_of_framed hframed, hlimit]

end Layout

namespace Render

variable {content : Content} {line : Text}

/-! ## Lines and their markers -/

/-- The lines of the text of a content, each trimmed, without the blank ones that follow a blank
one. -/
def bareLines (content : Content) : List Text :=
  ((Text.lines content.flattenBlocks.plainText.trim).map Text.trim).destutter Apart

/-- A line behind the marker of a quotation. -/
def quoteMark (line : Text) : Text :=
  if line = [] then ['>'] else '>' :: ' ' :: line

theorem quoteLine_ofText (line : Text) : quoteLine (ofText line) = ofText (quoteMark line) := by
  cases line <;> rfl

/-- Squeezing leaves out an empty line behind an empty one, and no other. -/
theorem ofText_cons_squeezeEmpty (before : Text) (lines : List Text) :
    ofText before :: squeezeEmpty before.isEmpty (lines.map ofText) =
      (lines.destutter' Apart before).map ofText := by
  induction lines generalizing before with
  | nil => rfl
  | cons line rest ih =>
    have hempty : (ofText line).isEmpty = line.isEmpty := List.isEmpty_map
    rw [List.map_cons, squeezeEmpty, hempty]
    by_cases h : Apart before line
    · have hkept : ¬(line.isEmpty && before.isEmpty) := by
        simpa [Apart, imp_iff_or_not, or_comm] using h
      rw [if_neg hkept, List.destutter'_cons_pos _ h, List.map_cons, ← ih line]
    · -- an empty line behind an empty one
      obtain ⟨rfl, rfl⟩ : before = [] ∧ line = [] := by simpa [Apart] using h
      rw [List.destutter'_cons_neg _ h, ← ih []]
      rfl

/-- What squeezing does to lines of text. -/
theorem squeezeEmpty_map_ofText (lines : List Text) :
    squeezeEmpty false (lines.map ofText) = (lines.destutter Apart).map ofText := by
  cases lines with
  | nil => rfl
  | cons line rest =>
    rw [List.destutter_cons', ← ofText_cons_squeezeEmpty, List.map_cons, squeezeEmpty,
      Bool.and_false, if_neg Bool.false_ne_true, show (ofText line).isEmpty = line.isEmpty from
        List.isEmpty_map]

/-- A bare line begins and ends visibly, unless it is empty. -/
theorem framed_of_mem_bareLines (h : line ∈ bareLines content) :
    (line = [] ∨ Framed line) ∧ '\n' ∉ line := by
  obtain ⟨source, hsource, rfl⟩ := List.mem_map.1 ((List.destutter_sublist _ _).mem h)
  refine ⟨or_iff_not_imp_left.2 framed_trim, fun hn => ?_⟩
  have hatom : ofText source ∈ (ofText content.flattenBlocks.plainText.trim).lines := by
    rw [lines_ofText]
    exact List.mem_map_of_mem hsource
  exact newline_not_mem_of_mem_lines hatom (List.mem_map_of_mem (mem_of_mem_trim hn))

/-- A marked line begins and ends visibly. -/
theorem framed_quoteMark (h : (line = [] ∨ Framed line) ∧ '\n' ∉ line) :
    Framed (quoteMark line) ∧ '\n' ∉ quoteMark line := by
  obtain ⟨hline, hnewline⟩ := h
  by_cases hempty : line = []
  · rw [quoteMark, if_pos hempty]
    exact ⟨⟨⟨'>', [], rfl, rfl⟩, ⟨[], '>', rfl, rfl⟩⟩, by decide⟩
  · obtain ⟨start, x, hlast, hx⟩ := (hline.resolve_left hempty).last
    rw [quoteMark, if_neg hempty]
    exact ⟨⟨⟨'>', ' ' :: line, rfl, rfl⟩, ⟨'>' :: ' ' :: start, x, by rw [hlast]; rfl, hx⟩⟩,
      by simp [hnewline]⟩

/-- A marked line is visible at both ends. -/
theorem framed_of_mem_map_quoteMark (h : line ∈ (bareLines content).map quoteMark) :
    Framed line ∧ '\n' ∉ line := by
  obtain ⟨bare, hbare, rfl⟩ := List.mem_map.1 h
  exact framed_quoteMark (framed_of_mem_bareLines hbare)

/-! ## One quotation -/

/-- The lines of a quotation of text are those of the text, marked. -/
theorem quotedLines_eq (h : content.TextBlocks) :
    quotedLines content = ((bareLines content).map quoteMark).map ofText := by
  have hlines : content.flattenBlocks.trim.lines.map Content.trim =
      ((Text.lines content.flattenBlocks.plainText.trim).map Text.trim).map ofText := by
    conv => lhs; rw [h.flattenBlocks_eq]
    rw [trim_ofText, lines_ofText, map_trim_ofText]
  rw [quotedLines, hlines, squeezeEmpty_map_ofText, ← bareLines, List.map_map, List.map_map]
  exact List.map_congr_left fun line _ => quoteLine_ofText line

/-- What stands between the boundaries of a quotation of text: text and hard breaks, which a reader
sees as the marked lines. -/
theorem prose_quoted (h : content.TextBlocks) :
    (quoted content).Prose ∧
      (quoted content).visibleText = Text.joinWith ['\n'] ((bareLines content).map quoteMark) := by
  rw [quoted, quotedLines_eq h]
  exact ⟨prose_flatten_intersperse _, visibleText_flatten_intersperse _⟩

/-- The lines of a quotation stay apart, since a region puts spaces for newlines only. -/
theorem layoutParagraphs_blockQuote (h : content.TextBlocks) :
    (blockQuote content).layoutParagraphs.resolveHardBreaks =
      ofText (Text.joinWith ['\n'] ((bareLines content).map quoteMark) ++ ['\n', '\n']) := by
  obtain ⟨hprose, hvisible⟩ := prose_quoted h
  have hresolve : (quoted content).resolveHardBreaks =
      ofText (Text.joinWith ['\n'] ((bareLines content).map quoteMark)) := by
    rw [hprose.resolveHardBreaks_eq, hvisible]
  -- marked lines begin and end visibly, so that trimming the region takes nothing away
  have htrim : (quoted content).trim = quoted content := by
    by_cases hnone : (bareLines content).map quoteMark = []
    · rw [quoted, quotedLines_eq h, hnone]
      rfl
    · exact trim_eq_self_of_framed hresolve
        (.joinWith hnone (fun _ hline => (framed_of_mem_map_quoteMark hline).1) _)
  rw [blockQuote_eq, layoutParagraphs_paragraphRegion (boundary_not_mem_quoted content),
    newlinesToSpaces_trim_quoted, htrim, ofText_append, ← hresolve]
  exact List.map_append

/-- A quotation of text is laid out as its marked lines. -/
theorem layout_blockQuote_eq (h : content.TextBlocks) :
    layout (blockQuote content) [] =
      Text.joinWith ['\n'] ((bareLines content).map quoteMark) := by
  have hblank : ∀ c ∈ ['\n', '\n'], isBlank c := by simp [isBlank]
  rw [layout_of_laidOut (layoutParagraphs_blockQuote h), layout_ofText_append_blank hblank]
  exact layout_joinWith_framed fun _ => framed_of_mem_map_quoteMark

/-! ## Quotations in quotations -/

/-- A quotation of text is text. -/
theorem textBlocks_blockQuote (h : content.TextBlocks) : (blockQuote content).TextBlocks :=
  (prose_quoted h).1.textBlocks_paragraphRegion

/-- A quotation is read back as its marked lines, none of which is blank. -/
theorem bareLines_blockQuote (h : content.TextBlocks) :
    bareLines (blockQuote content) = (bareLines content).map quoteMark := by
  obtain ⟨hprose, hvisible⟩ := prose_quoted h
  have hframed {line : Text} (hline : line ∈ (bareLines content).map quoteMark) :
      Framed line ∧ '\n' ∉ line := framed_of_mem_map_quoteMark hline
  have htext : (blockQuote content).flattenBlocks.plainText =
      '\n' :: (Text.joinWith ['\n'] ((bareLines content).map quoteMark) ++ ['\n']) := by
    -- the boundaries of the quotation are newlines around it
    have hflat : (blockQuote content).flattenBlocks =
        ofText ['\n'] ++ (quoted content).flattenBlocks ++ ofText ['\n'] := by
      rw [blockQuote_eq, paragraphRegion, flattenBlocks_append]
      rfl
    rw [hflat, hprose.flattenBlocks_eq, hvisible, plainText_append, plainText_append]
    simp only [plainText_ofText]
    rfl
  have htrim : (blockQuote content).flattenBlocks.plainText.trim =
      Text.joinWith ['\n'] ((bareLines content).map quoteMark) := by
    rw [htext, Text.trim, Text.trimStart, List.dropWhile_cons_of_pos rfl, ← Text.trimStart,
      ← Text.trim, trim_append_blank (by simp [isBlank])]
    by_cases hnone : (bareLines content).map quoteMark = []
    · rw [hnone]
      rfl
    · exact (Framed.joinWith hnone (fun _ hline => (hframed hline).1) _).trim_eq
  -- a marked line is never empty, so none is left out
  have hapart : ((bareLines content).map quoteMark).IsChain Apart :=
    List.Pairwise.isChain (List.pairwise_of_forall_mem_list fun line hline _ _ =>
      .inl (hframed hline).1.ne_nil)
  have hsame : ((bareLines content).map quoteMark).map Text.trim =
      (bareLines content).map quoteMark := by
    conv => rhs; rw [← List.map_id ((bareLines content).map quoteMark)]
    exact List.map_congr_left fun line hline => (hframed hline).1.trim_eq
  rw [bareLines, htrim, lines_joinWith fun _ => hframed, hsame,
    List.destutter_of_isChain _ _ hapart]

/-- Each quotation around the text marks its lines once more. -/
theorem bareLines_iterate_blockQuote (h : content.TextBlocks) (k : Nat) :
    (blockQuote^[k] content).TextBlocks ∧
      bareLines (blockQuote^[k] content) = (bareLines content).map quoteMark^[k] := by
  induction k with
  | zero => exact ⟨h, (List.map_id _).symm⟩
  | succ k ih =>
    obtain ⟨hblocks, hlines⟩ := ih
    rw [Function.iterate_succ_apply', bareLines_blockQuote hblocks, hlines, List.map_map]
    exact ⟨textBlocks_blockQuote hblocks,
      List.map_congr_left fun line _ => (Function.iterate_succ_apply' _ _ line).symm⟩

/-- Behind the first marker, a line is not blank, so that each further one ends with a space. -/
theorem iterate_quoteMark (k : Nat) (line : Text) :
    quoteMark^[k + 1] line = Text.times k ['>', ' '] ++ quoteMark line := by
  have hne (line : Text) : quoteMark line ≠ [] := by
    unfold quoteMark
    split <;> exact List.cons_ne_nil _ _
  induction k with
  | zero => rfl
  | succ k ih =>
    have hbehind : quoteMark^[k + 1] line ≠ [] := by
      rw [Function.iterate_succ_apply']
      exact hne _
    rw [Function.iterate_succ_apply', quoteMark, if_neg hbehind, ih]
    rfl

/-- A quotation of text becomes the bare lines of its content, joined by newlines, each behind a
marker: `>` alone if it is blank.  Quotations in quotations put as many markers in front of each
line as there are quotations. -/
theorem layout_blockQuote (h : content.TextBlocks) :
    layout (blockQuote content) (ofFragments []) = Text.joinWith ['\n']
        ((bareLines content).map fun line => if line = [] then ['>'] else '>' :: ' ' :: line) ∧
      ∀ k, layout (blockQuote^[k + 1] content) (ofFragments []) = Text.joinWith ['\n']
        ((bareLines content).map fun line =>
          if line = [] then Text.times k ['>', ' '] ++ ['>']
          else Text.times (k + 1) ['>', ' '] ++ line) := by
  refine ⟨layout_blockQuote_eq h, fun k => ?_⟩
  obtain ⟨hblocks, hlines⟩ := bareLines_iterate_blockQuote h k
  -- an empty line is marked without a space at its end
  have hmarks (line : Text) : quoteMark (quoteMark^[k] line) =
      if line = [] then Text.times k ['>', ' '] ++ ['>']
      else Text.times (k + 1) ['>', ' '] ++ line := by
    rw [← Function.iterate_succ_apply' quoteMark, iterate_quoteMark, quoteMark]
    split
    · rfl
    · simp [Text.times, List.replicate_succ']
  rw [Function.iterate_succ_apply']
  refine (layout_blockQuote_eq hblocks).trans ?_
  rw [hlines, List.map_map]
  exact congrArg _ (List.map_congr_left fun line _ => hmarks line)

/-- Blank lines in a row, one of them a paragraph boundary, become one in the quotation. -/
theorem layout_blockQuote_paragraphs :
    let content : Content :=
      .boundary :: ofText " a".toList ++ .hardBreak :: ofText "b\r\n".toList ++
        [.boundary, .boundary] ++ ofText "```".toList ++ [.boundary]
    content.TextBlocks ∧
      bareLines content = ["a".toList, "b".toList, [], "```".toList] ∧
      layout (blockQuote content) (ofFragments []) = "> a\n> b\n>\n> ```".toList ∧
      layout (blockQuote^[2] content) (ofFragments []) =
        "> > a\n> > b\n> >\n> > ```".toList := by
  intro content
  have hblocks : content.TextBlocks := by simp [content, TextBlocks, ofText]
  -- boundaries are newlines in a quotation, and only one empty line is left between the paragraphs
  have hlines : bareLines content = ["a".toList, "b".toList, [], "```".toList] := by
    decide +kernel
  obtain ⟨hone, hmore⟩ := layout_blockQuote hblocks
  rw [hlines] at hone hmore
  exact ⟨hblocks, hlines, hone, hmore 1⟩

end Render

end Gemtext
