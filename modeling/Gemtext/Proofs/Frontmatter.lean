import Gemtext.Frontmatter
import Gemtext.Proofs.Layout.Shown
import Gemtext.Proofs.Text.Visible

/-!
# Front matter is removed exactly

`Frontmatter` is front matter as it is written in front of a document: blank characters, the opening
line, the metadata and the closing line, each line ended by `\n` or `\r\n`.  What stands behind it
is left of the document, without the blanks at its end and with `\n` in place of `\r\n`
(`Frontmatter.frontmatterBody?_closed`).

A document has no front matter just if the first of its lines that is not blank is no delimiter, or
none of the lines behind it is the same delimiter (`frontmatterBody?_eq_none_iff`).  Then it is left
as it is.
-/

namespace Gemtext

open Text

/-! ## Lines as they are written -/

/-- What ends a line. -/
inductive LineEnd where
  | newline
  | returnNewline
  deriving DecidableEq

/-- The characters that end the line. -/
def LineEnd.text : LineEnd → Text
  | newline => ['\n']
  | returnNewline => ['\r', '\n']

/-- A line with what ends it. -/
structure EndedLine where
  line : Text
  ending : LineEnd
  newline_not_mem : '\n' ∉ line

/-- The line as it is written. -/
def EndedLine.text (l : EndedLine) : Text :=
  l.line ++ l.ending.text

/-- Front matter as it is written.  The lines that open and close it may have blanks at their ends,
and the metadata may hold the other delimiter. -/
structure Frontmatter where
  lead : Text
  delimiter : Text
  opening : EndedLine
  metadata : List EndedLine
  closing : EndedLine
  lead_blank : ∀ c ∈ lead, isBlank c
  delimiter_mem : delimiter ∈ frontmatterDelimiters
  opening_eq : opening.line.trimEnd = delimiter
  metadata_ne : ∀ l ∈ metadata, l.line.trimEnd ≠ delimiter
  closing_eq : closing.line.trimEnd = delimiter

/-- The front matter up to the closing line. -/
def Frontmatter.start (f : Frontmatter) : Text :=
  f.lead ++ f.opening.text ++ f.metadata.flatMap EndedLine.text

/-! ## Reading lines -/

/-- A line is read without its end, up to blanks. -/
theorem EndedLine.exists_lines_append (l : EndedLine) (rest : Text) :
    ∃ body, body.trimEnd = l.line.trimEnd ∧ lines (l.text ++ rest) = body :: lines rest := by
  cases hending : l.ending with
  | newline =>
    have htext : l.text ++ rest = l.line ++ '\n' :: rest := by
      rw [EndedLine.text, hending, LineEnd.text, List.append_assoc, List.singleton_append]
    rw [htext]
    exact lines_append_cons l.newline_not_mem rest
  | returnNewline =>
    -- the carriage return is a blank at the end of the line
    have htext : l.text ++ rest = (l.line ++ ['\r']) ++ '\n' :: rest := by
      rw [EndedLine.text, hending, LineEnd.text, List.append_assoc, List.append_assoc]
      rfl
    have hnewline : '\n' ∉ l.line ++ ['\r'] := by simpa using l.newline_not_mem
    obtain ⟨body, hbody, hlines⟩ := lines_append_cons hnewline rest
    rw [trimEnd_append_blank (by simp [isBlank])] at hbody
    exact ⟨body, hbody, htext ▸ hlines⟩

/-- There is nothing to find behind a delimiter that no line holds. -/
theorem linesAfter?_eq_none_iff {delimiter : Text} {lines : List Text} :
    linesAfter? delimiter lines = none ↔ ∀ line ∈ lines, line.trimEnd ≠ delimiter := by
  induction lines with
  | nil => simp [linesAfter?]
  | cons line rest ih =>
    rw [linesAfter?, List.forall_mem_cons, ← ih]
    split <;> simp_all

/-- Lines that are no delimiter are passed over. -/
theorem linesAfter?_metadata {delimiter : Text} {metadata : List EndedLine}
    (h : ∀ l ∈ metadata, l.line.trimEnd ≠ delimiter) (rest : Text) :
    linesAfter? delimiter (lines (metadata.flatMap EndedLine.text ++ rest)) =
      linesAfter? delimiter (lines rest) := by
  induction metadata with
  | nil => rfl
  | cons l metadata ih =>
    obtain ⟨hl, hmetadata⟩ := List.forall_mem_cons.1 h
    rw [List.flatMap_cons, List.append_assoc]
    obtain ⟨body, hbody, hlines⟩ := l.exists_lines_append (metadata.flatMap EndedLine.text ++ rest)
    rw [hlines, linesAfter?, if_neg (hbody ▸ hl), ih hmetadata]

/-! ## Documents with front matter -/

/-- Blanks at the ends make no difference. -/
theorem frontmatterBody?_congr {s t : Text} (h : s.trim = t.trim) :
    frontmatterBody? s = frontmatterBody? t := by
  rw [frontmatterBody?, h, ← frontmatterBody?]

/-- A delimiter begins and ends with characters that are not blank, and is on one line. -/
theorem framed_delimiter {delimiter : Text} (h : delimiter ∈ frontmatterDelimiters) :
    Framed delimiter ∧ '\n' ∉ delimiter := by
  have hall : ∀ d ∈ frontmatterDelimiters, d ≠ [] ∧ d.any isBlank = false ∧ '\n' ∉ d := by
    decide
  obtain ⟨hne, hvisible, hnewline⟩ := hall delimiter h
  exact ⟨.of_visible hne (by simpa using hvisible), hnewline⟩

namespace Frontmatter

variable (f : Frontmatter)

/-- Behind the metadata, the closing line is looked for. -/
theorem frontmatterBody?_start_append {rest : Text}
    (hrest : ∃ start c, rest = start ++ [c] ∧ isBlank c = false) :
    frontmatterBody? (f.start ++ rest) =
      (linesAfter? f.delimiter (lines rest)).map (joinWith ['\n']) := by
  obtain ⟨hframed, -⟩ := framed_delimiter f.delimiter_mem
  -- the opening line begins visibly, so nothing but the lead is trimmed
  have hopening : ∃ c more, f.opening.text ++ f.metadata.flatMap EndedLine.text = c :: more ∧
      isBlank c = false := by
    obtain ⟨blanks, hline, -⟩ := exists_trimEnd_append f.opening.line
    obtain ⟨c, more, hc, hvisible⟩ := hframed.first
    rw [f.opening_eq, hc] at hline
    rw [EndedLine.text, hline]
    exact ⟨c, _, rfl, hvisible⟩
  have htrim : (f.start ++ rest).trim =
      f.opening.text ++ (f.metadata.flatMap EndedLine.text ++ rest) := by
    rw [start, List.append_assoc, List.append_assoc, trim_blank_append f.lead_blank,
      ← List.append_assoc]
    exact (framed_append hopening hrest).trim_eq
  obtain ⟨first, hfirst, hlines⟩ :=
    f.opening.exists_lines_append (f.metadata.flatMap EndedLine.text ++ rest)
  have hdelimiter : first.trimEnd = f.delimiter := hfirst.trans f.opening_eq
  rw [frontmatterBody?, htrim, hlines]
  simp only [hdelimiter]
  rw [if_pos (by simpa using f.delimiter_mem), linesAfter?_metadata f.metadata_ne]

/-- Front matter at the end of the source leaves nothing. -/
theorem frontmatterBody?_closing {blanks : Text} (h : ∀ c ∈ blanks, isBlank c) :
    frontmatterBody? (f.start ++ f.closing.line ++ blanks) = some [] := by
  obtain ⟨hframed, hnewline⟩ := framed_delimiter f.delimiter_mem
  obtain ⟨more, hline, hmore⟩ := exists_trimEnd_append f.closing.line
  rw [f.closing_eq] at hline
  have htrim : (f.start ++ f.closing.line ++ blanks).trim = (f.start ++ f.delimiter).trim := by
    rw [trim_append_blank h, hline, ← List.append_assoc, trim_append_blank hmore]
  have hlines : lines f.delimiter = [f.delimiter] :=
    lines_of_not_mem hframed.ne_nil hnewline
  rw [frontmatterBody?_congr htrim, f.frontmatterBody?_start_append hframed.last, hlines,
    linesAfter?, if_pos hframed.trimEnd_eq]
  rfl

/-- What stands behind the closing line is left, delimiters among it or not. -/
theorem frontmatterBody?_closed (body : Text) :
    frontmatterBody? (f.start ++ f.closing.text ++ body) = some body.trimEnd.unifyNewlines := by
  obtain ⟨blanks, hbody, hblanks⟩ := exists_trimEnd_append body
  by_cases hnone : body.trimEnd = []
  · -- the source ends with the closing line, what ends that line being blank, too
    have hend : ∀ c ∈ f.closing.ending.text, isBlank c := by
      cases f.closing.ending <;> simp [LineEnd.text, isBlank]
    have hmore : ∀ c ∈ f.closing.ending.text ++ blanks, isBlank c := by
      intro c hc
      exact (List.mem_append.1 hc).elim (hend c) (hblanks c)
    rw [hnone] at hbody ⊢
    have hsource : f.start ++ f.closing.text ++ body =
        f.start ++ f.closing.line ++ (f.closing.ending.text ++ blanks) := by
      rw [hbody, EndedLine.text]
      simp only [List.nil_append, List.append_assoc]
    rw [hsource, f.frontmatterBody?_closing hmore]
    rfl
  · obtain ⟨init, c, hlast, hvisible⟩ := exists_trimEnd_eq_concat hnone
    have htrim : (f.start ++ f.closing.text ++ body).trim =
        (f.start ++ (f.closing.text ++ body.trimEnd)).trim := by
      conv => lhs; rw [hbody]
      rw [← List.append_assoc, trim_append_blank hblanks, List.append_assoc]
    have hends : ∃ start c, f.closing.text ++ body.trimEnd = start ++ [c] ∧ isBlank c = false :=
      ⟨f.closing.text ++ init, c, by rw [hlast, List.append_assoc], hvisible⟩
    obtain ⟨line, hline, hlines⟩ := f.closing.exists_lines_append body.trimEnd
    rw [frontmatterBody?_congr htrim, f.frontmatterBody?_start_append hends, hlines, linesAfter?,
      if_pos (hline.trans f.closing_eq)]
    -- the body is visible at its end, so that no newline is lost there
    have hlastNewline : body.trimEnd.unifyNewlines.getLast? ≠ some '\n' := by
      have hc : c ≠ '\n' := ne_of_visible hvisible rfl
      rw [hlast, unifyNewlines_concat hc, List.getLast?_concat]
      simpa using hc
    show some (joinWith ['\n'] body.trimEnd.lines) = some body.trimEnd.unifyNewlines
    rw [joinWith_lines, if_neg hlastNewline]

end Frontmatter

/-! ## Documents without front matter -/

/-- Behind its blank lines, a source is read as without the blanks at its start, but for those that
indent the first line. -/
theorem exists_lines_trimStart {s : Text} (h : ¬s.allBlank) :
    ∃ first head later, s.lines.dropWhile allBlank = first :: later ∧
      s.trimStart.lines = head :: later ∧ head.trimEnd = first.trim ∧ first.trim ≠ [] := by
  induction s using lineInduction with
  | last line hline =>
    -- the text has one line, and it is not blank
    have hne : line ≠ [] := by
      rintro rfl
      exact h rfl
    have hstart : line.trimStart ≠ [] := fun hnil => h (trimStart_eq_nil_iff.1 hnil)
    -- any other line is where both stop
    have hnewline : '\n' ∉ line.trimStart := fun hmem =>
      hline ((List.dropWhile_suffix isBlank).mem hmem)
    refine ⟨line, line.trimStart, [], ?_, lines_of_not_mem hstart hnewline, rfl, ?_⟩
    · rw [lines_of_not_mem hne hline, List.dropWhile_cons_of_neg h]
    · exact fun hnil => h (trim_eq_nil_iff.1 hnil)
  | cons line rest hline ih =>
    obtain ⟨body, hbody, hlines⟩ := lines_append_cons hline rest
    have htrim : body.trim = line.trim := by rw [← trim_trimEnd, hbody, trim_trimEnd]
    have hsame : body.allBlank ↔ line.allBlank := by
      rw [← trim_eq_nil_iff, htrim, trim_eq_nil_iff]
    rw [hlines, trimStart_append_newline]
    by_cases hblank : line.allBlank
    · -- a blank line is passed over by both
      rw [List.dropWhile_cons_of_pos (hsame.2 hblank), if_pos hblank]
      apply ih
      rwa [← trimStart_eq_nil_iff, trimStart_append_newline, if_pos hblank, trimStart_eq_nil_iff]
        at h
    · have hnewline : '\n' ∉ line.trimStart := fun hmem =>
        hline ((List.dropWhile_suffix isBlank).mem hmem)
      obtain ⟨head, hhead, hheadLines⟩ := lines_append_cons hnewline rest
      rw [List.dropWhile_cons_of_neg (hsame.not.2 hblank), if_neg hblank]
      refine ⟨body, head, rest.lines, rfl, hheadLines, ?_, ?_⟩
      · rw [hhead, htrim, trim]
      · exact fun hnil => hblank (hsame.1 (trim_eq_nil_iff.1 hnil))

/-- Trimming a source keeps its first visible line, trimmed, and what is shown behind it. -/
theorem exists_lines_trim {source : Text} (h : ¬source.allBlank) :
    ∃ first later head rest, source.lines.dropWhile allBlank = first :: later ∧
      source.trim.lines = head :: rest ∧ head.trimEnd = first.trim ∧ first.trim ≠ [] ∧
      shown rest = shown later := by
  have hframed : Framed source.trim := framed_trim fun hnil => h (trim_eq_nil_iff.1 hnil)
  have htrimmed : ¬source.trim.allBlank := by
    rw [← trim_eq_nil_iff, hframed.trim_eq]
    exact hframed.ne_nil
  -- trimming at the beginning keeps what stands behind the first line
  obtain ⟨first, indented, later, hdrop, hstart, hfirst, hvisible⟩ := exists_lines_trimStart h
  obtain ⟨again, head, rest, -, htrim, hagain, hvisibleAgain⟩ := exists_lines_trimStart htrimmed
  rw [hframed.trimStart_eq] at htrim
  -- trimming at the end keeps what is shown
  have hshown : shown (head :: rest) = shown (indented :: later) := by
    rw [← htrim, ← hstart, ← shownLines, ← shownLines, shownLines_eq, shownLines_eq, trim,
      shown_splitOn_trimEnd]
  rw [shown_cons_of_ne_nil (hagain ▸ hvisibleAgain), shown_cons_of_ne_nil (hfirst ▸ hvisible)]
    at hshown
  obtain ⟨hhead, hrest⟩ := List.cons.inj hshown
  exact ⟨first, later, head, rest, hdrop, htrim, hhead.trans hfirst, hvisible, hrest⟩

/-- All lines of a blank source are blank. -/
theorem dropWhile_allBlank_lines {source : Text} (h : source.allBlank) :
    source.lines.dropWhile allBlank = [] := by
  have hshown : shown source.lines = [] := by
    rw [← shownLines, shownLines_eq]
    exact shown_splitOn_append_blank (List.all_eq_true.1 h) []
  rw [List.dropWhile_eq_nil_iff]
  intro line hline
  -- a line that is not blank would be shown
  by_contra hvisible
  have hne : line.trimEnd ≠ [] := by
    intro hnil
    exact hvisible (trim_eq_nil_iff.1 (by rw [← trim_trimEnd, hnil]; rfl))
  have hall : ∀ other ∈ source.lines, other.trimEnd ≠ line.trimEnd := by
    rw [← not_mem_shown_iff hne, hshown]
    exact List.not_mem_nil
  exact hall line hline rfl

/-- There is no front matter just if the first line that is not blank is no delimiter, or none of
the lines behind it is the same one. -/
theorem frontmatterBody?_eq_none_iff {source : Text} :
    frontmatterBody? source = none ↔
      ∀ first later, source.lines.dropWhile allBlank = first :: later →
        first.trim ∉ frontmatterDelimiters ∨ ∀ line ∈ later, line.trimEnd ≠ first.trim := by
  by_cases hblank : source.allBlank
  · -- a blank text has neither delimiter nor body
    have hnone : frontmatterBody? source = none := by
      rw [frontmatterBody?, trim_eq_nil_iff.2 hblank]
      rfl
    simp [hnone, dropWhile_allBlank_lines hblank]
  · obtain ⟨first, later, head, rest, hdrop, htrim, hhead, hvisible, hshown⟩ :=
      exists_lines_trim hblank
    -- trimming moves the lines behind the first, but shows the same of them
    have hlater :
        linesAfter? first.trim rest = none ↔ ∀ line ∈ later, line.trimEnd ≠ first.trim := by
      rw [linesAfter?_eq_none_iff, ← not_mem_shown_iff hvisible, hshown, not_mem_shown_iff hvisible]
    -- the first line that is not blank has to be a delimiter
    have hbody : frontmatterBody? source =
        if frontmatterDelimiters.contains first.trim then
          (linesAfter? first.trim rest).map (joinWith ['\n'])
        else none := by
      rw [frontmatterBody?, htrim]
      simp only [hhead]
    rw [hbody, hdrop]
    constructor
    · rintro hnone _ _ ⟨⟩
      rw [← hlater]
      by_cases hmem : first.trim ∈ frontmatterDelimiters
      · rw [if_pos (by simpa using hmem), Option.map_eq_none_iff] at hnone
        exact .inr hnone
      · exact .inl hmem
    · intro hall
      rcases hall first later rfl with hmem | hunclosed
      · rw [if_neg (by simpa using hmem)]
      · rw [hlater.2 hunclosed, Option.map_none, ite_self]

/-! ## The document that is left -/

/-- Front matter is removed with what stands in front of it, whichever of the delimiters it has and
whatever the lines end with.  Of the body, the blanks at the end are lost and the lines end with
`\n`; a delimiter in it stays.  Without front matter, the source is left as it is. -/
theorem stripFrontmatter_exact :
    (∀ (f : Frontmatter) (body : Text),
      stripFrontmatter (f.start ++ f.closing.text ++ body) = body.trimEnd.unifyNewlines) ∧
    (∀ f : Frontmatter, stripFrontmatter (f.start ++ f.closing.line) = []) ∧
    ∀ source : Text,
      (∀ first later, source.lines.dropWhile allBlank = first :: later →
        first.trim ∉ frontmatterDelimiters ∨ ∀ line ∈ later, line.trimEnd ≠ first.trim) →
      stripFrontmatter source = source := by
  refine ⟨?_, ?_, ?_⟩
  · intro f body
    -- the body stands behind the closing line
    rw [stripFrontmatter, f.frontmatterBody?_closed]
    rfl
  · intro f
    -- the closing line is the last one
    have hnothing : frontmatterBody? (f.start ++ f.closing.line ++ []) = some [] :=
      f.frontmatterBody?_closing (by simp)
    rw [List.append_nil] at hnothing
    rw [stripFrontmatter, hnothing]
    rfl
  · intro source hplain
    -- no line opens a frontmatter, or none closes it
    have hnone : frontmatterBody? source = none := frontmatterBody?_eq_none_iff.2 hplain
    rw [stripFrontmatter, hnone]
    rfl

/-- Front matter between two lines of `---`, the metadata a line of `+++`. -/
def otherDelimiterInside : Frontmatter where
  lead := ['\n']
  delimiter := "---".toList
  opening := ⟨"--- ".toList, .returnNewline, by decide⟩
  metadata := [⟨"+++".toList, .newline, by decide⟩]
  closing := ⟨"---".toList, .newline, by decide⟩
  lead_blank := by simp [isBlank]
  delimiter_mem := by decide
  opening_eq := by decide
  metadata_ne := by decide
  closing_eq := by decide

/-- A further delimiter stays in the body; the other one closes nothing. -/
theorem stripFrontmatter_exact_delimiters_inside :
    stripFrontmatter "\n--- \r\n+++\n---\na\r\n---\r\n b \n".toList = "a\n---\n b".toList ∧
      stripFrontmatter "\n--- \r\n+++\n---".toList = [] ∧
      stripFrontmatter "--- \r\n+++\r\n".toList = "--- \r\n+++\r\n".toList := by
  refine ⟨?_, ?_, ?_⟩
  · exact stripFrontmatter_exact.1 otherDelimiterInside "a\r\n---\r\n b \n".toList
  · exact stripFrontmatter_exact.2.1 otherDelimiterInside
  · apply stripFrontmatter_exact.2.2
    intro first later hlines
    have hread : first :: later = ["--- ".toList, "+++".toList] := hlines.symm
    obtain ⟨rfl, rfl⟩ := List.cons.inj hread
    exact .inr (by decide)

end Gemtext
