import Gemtext.Proofs.Layout.Lines
import Gemtext.Proofs.Text.Characters

/-!
# The lines that a reader sees

A reader sees of a text its lines that are not blank, without the blank characters at their ends
(`Text.shownLines`).  Trimming the text at its end, taking newlines away and reading `\r\n` as `\n`
change nothing of what is seen.

Where lines are joined, they lose the blank characters at both ends (`Text.trimmedLines`), and
trimming the text in front changes nothing, either.
-/

namespace Gemtext

namespace Text

/-- The lines among these that are not blank, without the blank characters at their ends. -/
def shown (lines : List Text) : List Text :=
  (lines.map trimEnd).filter (!·.isEmpty)

/-- The lines of the text that are not blank, without the blank characters at their ends. -/
def shownLines (s : Text) : List Text :=
  shown s.lines

/-! ## Line by line -/

theorem shown_append (lines others : List Text) :
    shown (lines ++ others) = shown lines ++ shown others := by
  rw [shown, List.map_append, List.filter_append, ← shown, ← shown]

theorem shown_cons (line : Text) (lines : List Text) :
    shown (line :: lines) = shown [line] ++ shown lines :=
  shown_append [line] lines

/-- Blank characters at the end of a line are not shown. -/
theorem shown_append_blank {blanks : Text} (h : ∀ c ∈ blanks, isBlank c) (line : Text) :
    shown [line ++ blanks] = shown [line] := by
  simp only [shown, List.map_singleton, trimEnd_append_blank h]

/-- A blank line is not shown. -/
theorem shown_of_blank {line : Text} (h : ∀ c ∈ line, isBlank c) : shown [line] = [] :=
  shown_append_blank h []

/-- Nothing is shown of blank lines. -/
theorem shown_eq_nil {lines : List Text} (h : ∀ line ∈ lines, ∀ c ∈ line, isBlank c) :
    shown lines = [] := by
  induction lines with
  | nil => rfl
  | cons line lines ih =>
    obtain ⟨hline, hlines⟩ := List.forall_mem_cons.1 h
    rw [shown_cons, shown_of_blank hline, ih hlines]
    rfl

/-- A line that is not blank is shown. -/
theorem shown_cons_of_ne_nil {line : Text} (h : line.trimEnd ≠ []) (lines : List Text) :
    shown (line :: lines) = line.trimEnd :: shown lines :=
  List.filter_cons_of_pos (by simpa using h)

/-- A text that is not empty is looked for among the lines that are shown. -/
theorem not_mem_shown_iff {delimiter : Text} (h : delimiter ≠ []) {lines : List Text} :
    delimiter ∉ shown lines ↔ ∀ line ∈ lines, line.trimEnd ≠ delimiter := by
  simp [shown, h]

/-! ## The lines of a text -/

/-- Blank characters at the end of the text lengthen its last line, or add blank lines. -/
theorem shown_splitOn_append_blank {blanks : Text} (h : ∀ c ∈ blanks, isBlank c) (s : Text) :
    shown (splitOn '\n' (s ++ blanks)) = shown (splitOn '\n' s) := by
  obtain ⟨pieces, last, first, others, hs, hsplit, happend, -⟩ :=
    List.exists_splitOn_append '\n' s blanks
  have hpiece {piece : Text} (hmem : piece ∈ first :: others) : ∀ c ∈ piece, isBlank c :=
    fun c hc => h c (List.mem_and_ne_of_mem_splitOn (hsplit ▸ hmem) hc).1
  have hothers : shown others = [] := shown_eq_nil fun piece hmem =>
    hpiece (List.mem_cons_of_mem first hmem)
  rw [splitOn_eq_list, splitOn_eq_list, happend, hs, shown_append, shown_append, shown_cons,
    hothers, shown_append_blank (hpiece List.mem_cons_self), List.append_nil]

/-- Nothing is shown of the blank end of a text. -/
theorem shown_splitOn_trimEnd (s : Text) :
    shown (splitOn '\n' s.trimEnd) = shown (splitOn '\n' s) := by
  obtain ⟨blanks, hs, hblanks⟩ := List.exists_dropWhile_reverse_append isBlank s
  conv => rhs; rw [hs]
  exact (shown_splitOn_append_blank hblanks s.trimEnd).symm

/-- Only empty lines are taken away. -/
theorem shown_splitOn_limitNewlines (seen : Nat) (s : Text) :
    shown (splitOn '\n' (Layout.limitNewlines seen s)) = shown (splitOn '\n' s) := by
  induction s using lineInduction generalizing seen with
  | last line hline => rw [Layout.limitNewlines_of_not_mem hline]
  | cons line rest hline ih =>
    rw [splitOn_piece_cons hline, shown_cons]
    rcases Layout.limitNewlines_line hline seen rest with ⟨rfl, -, heq⟩ | ⟨now, -, heq⟩
    · rw [heq, ih]
      rfl
    · rw [heq, splitOn_piece_cons hline, shown_cons, ih]

/-- The carriage return before a newline is a blank character at the end of its line. -/
theorem shown_splitOn_unifyNewlines (s : Text) :
    shown (splitOn '\n' s.unifyNewlines) = shown (splitOn '\n' s) := by
  induction s using lineInduction with
  | last line hline => rw [unifyNewlines_of_not_mem (.inl hline)]
  | cons line rest hline ih =>
    obtain ⟨body, hbody, heq⟩ := unifyNewlines_line hline rest
    have hline' : '\n' ∉ body := by rcases hbody with rfl | rfl <;> simp_all
    rw [heq, splitOn_piece_cons hline, splitOn_piece_cons hline', shown_cons, ih,
      shown_cons line]
    rcases hbody with rfl | rfl
    · rfl
    · rw [shown_append_blank (by simp [isBlank])]

/-- A last line that is left out is empty. -/
theorem shownLines_eq (s : Text) : s.shownLines = shown (splitOn '\n' s) := by
  rw [shownLines, ← shown_splitOn_unifyNewlines, lines]
  split
  · rename_i hlast
    obtain ⟨pieces, hpieces⟩ := List.getLast?_eq_some_iff.1 hlast
    rw [hpieces, List.dropLast_concat, shown_append, shown_of_blank (by simp), List.append_nil]
  · rfl

/-! ## Trimmed lines -/

/-- The lines among these that are not blank, without the blank characters at both ends. -/
def trimmedLines (lines : List Text) : List Text :=
  (lines.map trim).filter (!·.isEmpty)

theorem trimmedLines_append (lines others : List Text) :
    trimmedLines (lines ++ others) = trimmedLines lines ++ trimmedLines others := by
  rw [trimmedLines, List.map_append, List.filter_append, ← trimmedLines, ← trimmedLines]

theorem trimmedLines_splitOn_nil : trimmedLines (splitOn '\n' []) = [] := rfl

theorem trimmedLines_cons (line : Text) (lines : List Text) :
    trimmedLines (line :: lines) = trimmedLines [line] ++ trimmedLines lines :=
  trimmedLines_append [line] lines

/-- A trimmed line is framed. -/
theorem framed_of_mem_trimmedLines {lines : List Text} {line : Text}
    (h : line ∈ trimmedLines lines) : Framed line := by
  obtain ⟨hmem, hne⟩ := List.mem_filter.1 h
  obtain ⟨before, -, rfl⟩ := List.mem_map.1 hmem
  exact framed_trim (by simpa using hne)

/-- What trimming leaves is not blank. -/
theorem allBlank_trim (s : Text) : s.trim.allBlank = s.trim.isEmpty := by
  by_cases hnil : s.trim = []
  · rw [hnil]
    rfl
  · obtain ⟨c, rest, hs, hc⟩ := (framed_trim hnil).first
    rw [hs, allBlank, List.all_cons, hc]
    rfl

/-- The lines that trimming leaves blank are left out. -/
theorem filter_allBlank_map_trim (lines : List Text) :
    (lines.map trim).filter (!·.allBlank) = trimmedLines lines := by
  refine List.filter_congr fun line hline => ?_
  obtain ⟨before, -, rfl⟩ := List.mem_map.1 hline
  rw [allBlank_trim]

/-- The lines of a text are cut at its newlines. -/
theorem newline_not_mem_of_mem_trimmedLines {s line : Text}
    (h : line ∈ trimmedLines (splitOn '\n' s)) : '\n' ∉ line := by
  obtain ⟨hmem, -⟩ := List.mem_filter.1 h
  obtain ⟨before, hbefore, rfl⟩ := List.mem_map.1 hmem
  exact fun hn => (mem_and_ne_of_mem_splitOn hbefore (mem_of_mem_trim hn)).2 rfl

/-- What is shown of the lines is enough to trim them. -/
theorem trimmedLines_shown (lines : List Text) :
    trimmedLines (shown lines) = trimmedLines lines := by
  induction lines with
  | nil => rfl
  | cons line lines ih =>
    have hline : trimmedLines (shown [line]) = trimmedLines [line] := by
      by_cases hnil : line.trimEnd = []
      · have htrim : line.trim = [] := by rw [← trim_trimEnd, hnil]; rfl
        simp [shown, trimmedLines, hnil, htrim]
      · simp [shown, trimmedLines, hnil, trim_trimEnd]
    rw [shown_cons, trimmedLines_append, hline, ih, ← trimmedLines_cons]

/-- Line breaks are blank, whichever way they are read. -/
theorem trimmedLines_lines (s : Text) : trimmedLines s.lines = trimmedLines (splitOn '\n' s) := by
  rw [← trimmedLines_shown, ← shownLines, shownLines_eq, trimmedLines_shown]

/-- A blank character in front of the text belongs to the first line, or is an empty one. -/
theorem trimmedLines_splitOn_blank_cons {c : Char} (hc : isBlank c) (s : Text) :
    trimmedLines (splitOn '\n' (c :: s)) = trimmedLines (splitOn '\n' s) := by
  by_cases hn : c = '\n'
  · rw [splitOn, if_pos hn]
    rfl
  · obtain ⟨first, others, hs⟩ := List.exists_cons_of_ne_nil (splitOn_ne_nil '\n' s)
    rw [splitOn, if_neg hn, hs, trimmedLines_cons, trimmedLines_cons first]
    simp only [trimmedLines, List.map_singleton, trim_blank_cons hc]

/-- Trimming a text takes away blank lines, and what is blank at both ends. -/
theorem trimmedLines_splitOn_trim (s : Text) :
    trimmedLines (splitOn '\n' s.trim) = trimmedLines (splitOn '\n' s) := by
  have hstart : trimmedLines (splitOn '\n' s.trimStart) = trimmedLines (splitOn '\n' s) := by
    induction s with
    | nil => rfl
    | cons c rest ih =>
      rw [trimStart, List.dropWhile_cons]
      split
      · rename_i hc
        rw [trimmedLines_splitOn_blank_cons hc, ← trimStart, ih]
      · rfl
  rw [trim, ← trimmedLines_shown, shown_splitOn_trimEnd, trimmedLines_shown, hstart]

/-- Behind an ended line the lines of another text begin. -/
theorem trimmedLines_splitOn_append_newline (s t : Text) :
    trimmedLines (splitOn '\n' (s ++ '\n' :: t)) =
      trimmedLines (splitOn '\n' s) ++ trimmedLines (splitOn '\n' t) := by
  rw [splitOn_append_cons, trimmedLines_append]

/-- A line that begins visibly is trimmed at its end only. -/
theorem trim_visible_cons {x : Char} (hx : isBlank x = false) (line : Text) :
    trim (x :: line) = x :: trimEnd line := by
  rw [trim, trimStart, List.dropWhile_cons_of_neg (by simp [hx])]
  exact trimEnd_append_cons hx [] line

/-- A visible mark in front of a line keeps its distance. -/
theorem trim_mark {mark : Text} (hmark : Framed mark) {x : Char} (hx : isBlank x = false)
    (line : Text) : trim (mark ++ ' ' :: x :: line) = mark ++ ' ' :: trim (x :: line) := by
  obtain ⟨c, rest, rfl, hc⟩ := hmark.first
  have hend : trimEnd (rest ++ ' ' :: x :: line) = rest ++ ' ' :: x :: trimEnd line := by
    have h := trimEnd_append_cons hx (rest ++ [' ']) line
    simpa using h
  rw [List.cons_append, trim_visible_cons hc, hend, trim_visible_cons hx, List.cons_append]

/-- A visible mark in front of a text stands in its first line. -/
theorem joinWith_trimmedLines_mark {mark : Text} (hmark : Framed mark) (hn : '\n' ∉ mark)
    (s : Text) :
    joinWith [' '] (trimmedLines (splitOn '\n' (mark ++ ' ' :: s.trim))) =
      joinWith [' '] (mark :: trimmedLines (splitOn '\n' s)) := by
  have hkeep {line : Text} (hne : line.trim ≠ []) (lines : List Text) :
      trimmedLines (line :: lines) = line.trim :: trimmedLines lines :=
    List.filter_cons_of_pos (by simpa using hne)
  rw [← trimmedLines_splitOn_trim s]
  by_cases hnil : s.trim = []
  · -- behind the mark there is nothing but a space
    have hblank : trim (mark ++ [' ']) = mark := by
      rw [trim_append_blank (by simp [isBlank]), hmark.trim_eq]
    rw [hnil, splitOn_of_not_mem (by simp [hn]), hkeep (by rw [hblank]; exact hmark.ne_nil), hblank]
    rfl
  · -- the text begins visibly, behind the mark as without it
    obtain ⟨x, rest, hs, hx⟩ := (framed_trim hnil).first
    obtain ⟨first, others, hrest⟩ := List.exists_cons_of_ne_nil (splitOn_ne_nil '\n' rest)
    have hxn : '\n' ∉ [x] := by simp [(ne_of_visible (c := '\n') hx rfl).symm]
    have hlines : splitOn '\n' (x :: rest) = (x :: first) :: others :=
      splitOn_append_of_not_mem hxn hrest
    have hmarked :
        splitOn '\n' (mark ++ ' ' :: x :: rest) = (mark ++ ' ' :: x :: first) :: others :=
      splitOn_append_of_not_mem hn (splitOn_append_of_not_mem (a := [' ']) (by decide) hlines)
    have hvisible : trim (x :: first) ≠ [] := by
      rw [trim_visible_cons hx]
      exact List.cons_ne_nil _ _
    rw [hs, hlines, hmarked, hkeep (by simp [trim_mark hmark hx]), trim_mark hmark hx,
      hkeep hvisible, joinWith_cons_cons, List.append_assoc]
    rfl

end Text

end Gemtext
