import Gemtext.Proofs.Content.Lines
import Gemtext.Proofs.Layout.Shown
import Mathlib.Algebra.Ring.Parity

/-!
# The fences of a document

How many lines of the document open or close a fence, counted on the content before its link lines
are isolated.  A link line counts like the newline that it becomes (`lineCount_isolateLinks`), and
the passes behind that keep the number of fences, if none of them is indented
(`lineCount_strippedLines`).

What a line of the content shows up to its first link line (`Content.lead`) decides whether it is a
fence.  Text behind a link line moves to a line of its own, so it may become a fence there: the
fences stay balanced only if no such text begins like one (`even_fences_layout`).
-/

namespace Gemtext

open Text

namespace Layout

/-- Whether the line begins like a fence behind its leading blank characters. -/
def seemsFence (line : Text) : Bool :=
  isFence line.trimStart

/-- How many lines of the text satisfy `p`. -/
def lineCount (p : Text → Bool) (s : Text) : Nat :=
  (splitOn '\n' s).countP p

/-- A test that no empty line passes, and for which blank characters at the end of a line do not
count. -/
structure IgnoresEnd (p : Text → Bool) : Prop where
  nil : p [] = false
  append_blank : ∀ {line blanks : Text}, (∀ c ∈ blanks, isBlank c) → p (line ++ blanks) = p line

/-! ## What begins like a fence -/

/-- An indented line is no fence. -/
theorem isFence_blank_cons {c : Char} (hc : isBlank c) (rest : Text) :
    isFence (c :: rest) = false := by
  have hne : ('`' == c) = false := beq_eq_false_iff_ne.2 (ne_of_visible rfl hc)
  simp [isFence, fence, List.isPrefixOf, hne]

/-- A fence is recognised by what the line begins with. -/
theorem isFence_append {line : Text} (h : isFence line) (rest : Text) : isFence (line ++ rest) := by
  obtain ⟨tail, rfl⟩ := List.isPrefixOf_iff_prefix.1 h
  exact List.isPrefixOf_iff_prefix.2 ⟨tail ++ rest, by simp⟩

/-- Blank characters at the end make no line a fence. -/
theorem ignoresEnd_isFence : IgnoresEnd isFence where
  nil := rfl
  append_blank {line blanks} hblanks := by
    rw [Bool.eq_iff_iff]
    refine ⟨fun h => ?_, fun h => isFence_append h blanks⟩
    -- a blank character is none of the three that make a fence
    have hnot {c : Char} (hc : c ∈ blanks) : c ≠ '`' := by
      rintro rfl
      exact absurd (hblanks _ hc) (by decide)
    cases blanks with
    | nil => simpa using h
    | cons c rest =>
      have hc : c ≠ '`' := hnot List.mem_cons_self
      match line with
      | [] | [_] | [_, _] => simp [isFence, fence, List.isPrefixOf, hc.symm] at h
      | x :: y :: z :: more => simpa [isFence, fence, List.isPrefixOf] using h

/-- A fence has no leading blank characters to lose. -/
theorem trimStart_of_isFence {line : Text} (h : isFence line) : line.trimStart = line := by
  cases line with
  | nil => rfl
  | cons c rest =>
    have hc : isBlank c = false := Bool.eq_false_iff.2 fun hc => by
      rw [isFence_blank_cons hc] at h
      cases h
    simp [trimStart, hc]

/-- A fence is one wherever it stands. -/
theorem seemsFence_of_isFence {line : Text} (h : isFence line) : seemsFence line := by
  rwa [seemsFence, trimStart_of_isFence h]

/-- A line that does not seem a fence is none. -/
theorem isFence_eq_false {line : Text} (h : seemsFence line = false) : isFence line = false :=
  Bool.eq_false_iff.2 fun hfence => by
    rw [seemsFence_of_isFence hfence] at h
    cases h

/-- A line that seems a fence holds three backticks in a row. -/
theorem fence_isInfix_of_seemsFence {line : Text} (h : seemsFence line) : fence <:+: line :=
  (List.isPrefixOf_iff_prefix.1 h).isInfix.trans (List.dropWhile_suffix _).isInfix

/-- A line that begins with another visible character seems no fence. -/
theorem seemsFence_visible_cons {x : Char} (hblank : isBlank x = false) (hne : x ≠ '`')
    (rest : Text) : seemsFence (x :: rest) = false := by
  have htrim : trimStart (x :: rest) = x :: rest := by simp [trimStart, hblank]
  have hnot : ('`' == x) = false := beq_eq_false_iff_ne.2 (Ne.symm hne)
  rw [seemsFence, htrim]
  simp [isFence, fence, List.isPrefixOf, hnot]

/-- Nor does a line without backticks. -/
theorem seemsFence_of_not_mem {line : Text} (h : '`' ∉ line) : seemsFence line = false :=
  Bool.eq_false_iff.2 fun hseems =>
    h ((fence_isInfix_of_seemsFence hseems).mem List.mem_cons_self)

theorem trimStart_trimStart (line : Text) : line.trimStart.trimStart = line.trimStart :=
  List.dropWhile_idempotent _ _

/-- Blank characters in front make no difference to what a line seems to be. -/
theorem seemsFence_blank_append {blanks : Text} (hblanks : ∀ c ∈ blanks, isBlank c) (line : Text) :
    seemsFence (blanks ++ line) = seemsFence line := by
  rw [seemsFence, trimStart, List.dropWhile_append_of_pos hblanks, ← trimStart, ← seemsFence]

theorem seemsFence_blank_cons {c : Char} (hc : isBlank c) (line : Text) :
    seemsFence (c :: line) = seemsFence line := by
  rw [seemsFence, trimStart, List.dropWhile_cons_of_pos hc, ← trimStart, ← seemsFence]

/-- What seems a fence still does with more text behind it. -/
theorem seemsFence_append {line : Text} (h : seemsFence line) (rest : Text) :
    seemsFence (line ++ rest) := by
  have hne : (line.dropWhile isBlank).isEmpty = false := by
    cases hline : line.dropWhile isBlank with
    | nil =>
      rw [seemsFence, trimStart, hline] at h
      cases h
    | cons c more => rfl
  rw [seemsFence, trimStart, List.dropWhile_append, hne, if_neg Bool.false_ne_true]
  exact isFence_append h rest

/-- Nor do blank characters at its end. -/
theorem ignoresEnd_seemsFence : IgnoresEnd seemsFence where
  nil := rfl
  append_blank {line blanks} hblanks := by
    rw [seemsFence, trimStart, List.dropWhile_append]
    split
    · -- nothing visible stands in the line
      rename_i hnone
      have hall : blanks.dropWhile isBlank = [] := List.dropWhile_eq_nil_iff.2 hblanks
      rw [hall, seemsFence, trimStart, List.isEmpty_iff.1 hnone]
    · exact ignoresEnd_isFence.append_blank hblanks

/-! ## Counting lines -/

section

variable {p : Text → Bool}

/-- The lines before a newline and those behind it are counted apart. -/
theorem lineCount_append_cons (a b : Text) :
    lineCount p (a ++ '\n' :: b) = lineCount p a + lineCount p b := by
  rw [lineCount, splitOn_append_cons, List.countP_append, ← lineCount, ← lineCount]

theorem lineCount_of_not_mem {s : Text} (h : '\n' ∉ s) (hp : p s = false) : lineCount p s = 0 := by
  rw [lineCount, splitOn_of_not_mem h]
  simp [hp]

variable (hp : IgnoresEnd p)
include hp

theorem lineCount_nil : lineCount p [] = 0 :=
  lineCount_of_not_mem List.not_mem_nil hp.nil

/-- An empty line in front counts nothing. -/
theorem lineCount_newline_cons (s : Text) : lineCount p ('\n' :: s) = lineCount p s := by
  have h := lineCount_append_cons (p := p) [] s
  rwa [List.nil_append, lineCount_nil hp, Nat.zero_add] at h

/-- What counts is what is shown of the lines. -/
theorem countP_shown (lines : List Text) : (shown lines).countP p = lines.countP p := by
  induction lines with
  | nil => rfl
  | cons line lines ih =>
    obtain ⟨blanks, hline, hblanks⟩ := List.exists_dropWhile_reverse_append isBlank line
    have hsame : p line = p line.trimEnd := by
      conv => lhs; rw [hline]
      exact hp.append_blank hblanks
    rw [shown_cons, List.countP_append, List.countP_cons, ih, hsame, Nat.add_comm]
    congr 1
    by_cases hnil : line.trimEnd = []
    · simp [shown, hnil, hp.nil]
    · simp [shown, hnil]

/-- Only what is shown of the lines counts. -/
theorem lineCount_eq_countP_shown (s : Text) :
    lineCount p s = (shown (splitOn '\n' s)).countP p :=
  (countP_shown hp _).symm

/-- Blank characters at the end of the text count nothing. -/
theorem lineCount_append_blank {blanks : Text} (hblanks : ∀ c ∈ blanks, isBlank c) (s : Text) :
    lineCount p (s ++ blanks) = lineCount p s := by
  rw [lineCount_eq_countP_shown hp, shown_splitOn_append_blank hblanks,
    ← lineCount_eq_countP_shown hp]

theorem lineCount_trimEnd (s : Text) : lineCount p s.trimEnd = lineCount p s := by
  rw [lineCount_eq_countP_shown hp, shown_splitOn_trimEnd, ← lineCount_eq_countP_shown hp]

/-- Taking away empty lines takes away none that counts. -/
theorem lineCount_limitNewlines (seen : Nat) (s : Text) :
    lineCount p (limitNewlines seen s) = lineCount p s := by
  rw [lineCount_eq_countP_shown hp, shown_splitOn_limitNewlines, ← lineCount_eq_countP_shown hp]

/-- The lines that `Text.lines` reads are counted alike. -/
theorem countP_lines (s : Text) : s.lines.countP p = lineCount p s := by
  rw [← countP_shown hp, ← shownLines, shownLines_eq, ← lineCount_eq_countP_shown hp]

end

/-! ## The passes behind link isolation -/

/-- No line of the text is an indented fence. -/
def Unindented (s : Text) : Prop :=
  ∀ line ∈ splitOn '\n' s, seemsFence line → isFence line

/-- Trimming leaves the fences among the lines alone, if no line is an indented fence. -/
theorem countP_stripLinesAfterLinks {lines : List Text}
    (h : ∀ line ∈ lines, seemsFence line → isFence line) (inFence strip : Bool) :
    (stripLinesAfterLinks inFence strip lines).countP isFence = lines.countP isFence ∧
      ∀ line ∈ stripLinesAfterLinks inFence strip lines, seemsFence line → isFence line := by
  induction lines generalizing inFence strip with
  | nil => exact ⟨rfl, by simp [stripLinesAfterLinks]⟩
  | cons line rest ih =>
    obtain ⟨hline, hrest⟩ := List.forall_mem_cons.1 h
    obtain ⟨shown, hshown, heq⟩ := stripLinesAfterLinks_cons inFence strip line rest
    obtain ⟨hcount, hkept⟩ := ih hrest (inFence ^^ isFence shown) (!inFence && startsLink shown)
    -- the line that is shown is the line itself or the line without its indent
    have hsame : isFence shown = isFence line ∧ (seemsFence shown → isFence shown) := by
      cases strip with
      | false =>
        obtain rfl : shown = line := hshown
        exact ⟨rfl, hline⟩
      | true =>
        obtain rfl : shown = line.trimStart := hshown
        refine ⟨Bool.eq_iff_iff.2 ⟨hline, seemsFence_of_isFence⟩, fun hseems => ?_⟩
        rwa [seemsFence, trimStart_trimStart] at hseems
    rw [heq]
    refine ⟨?_, List.forall_mem_cons.2 ⟨hsame.2, hkept⟩⟩
    rw [List.countP_cons, List.countP_cons, hcount, hsame.1]

/-- If no fence is indented, a line that begins with a blank is no fence, with or without it. -/
theorem Unindented.of_blank_cons {c : Char} {rest : Text} (hblank : isBlank c) (hn : c ≠ '\n')
    (h : Unindented (c :: rest)) :
    Unindented rest ∧ lineCount isFence rest = lineCount isFence (c :: rest) := by
  obtain ⟨first, more, hsplit⟩ := List.exists_cons_of_ne_nil (splitOn_ne_nil '\n' rest)
  have hcons : splitOn '\n' (c :: rest) = (c :: first) :: more := by
    rw [splitOn, if_neg hn, hsplit]
  -- what stands behind the blank character would be an indented fence
  have hfirst : seemsFence first = false := Bool.eq_false_iff.2 fun hseems => by
    rw [← seemsFence_blank_cons hblank] at hseems
    have hfence := h (c :: first) (by rw [hcons]; exact List.mem_cons_self) hseems
    rw [isFence_blank_cons hblank] at hfence
    cases hfence
  refine ⟨fun line hline hseems => ?_, ?_⟩
  · rw [hsplit] at hline
    rcases List.mem_cons.1 hline with rfl | hline
    · rw [hfirst] at hseems
      cases hseems
    · exact h line (by rw [hcons]; exact List.mem_cons_of_mem _ hline) hseems
  · rw [lineCount, lineCount, hcons, hsplit, List.countP_cons, List.countP_cons,
      isFence_eq_false hfirst, isFence_blank_cons hblank]

/-- Line terminators in front of the text count nothing, since they indent no fence. -/
theorem lineCount_dropTerminators {s : Text} (h : Unindented s) :
    lineCount isFence (s.dropWhile fun c => c == '\r' || c == '\n') = lineCount isFence s := by
  induction s with
  | nil => rfl
  | cons c rest ih =>
    rw [List.dropWhile_cons]
    split
    · rename_i hc
      -- a newline ends a line in front, which is empty
      by_cases hn : c = '\n'
      · subst hn
        rw [lineCount_newline_cons ignoresEnd_isFence]
        refine ih fun line hline => h line ?_
        rw [splitOn, if_pos rfl]
        exact List.mem_cons_of_mem _ hline
      · -- a carriage return stands in the first line
        have hblank : isBlank c := by
          obtain rfl : c = '\r' := by simpa [hn] using hc
          decide
        obtain ⟨hrest, hcount⟩ := h.of_blank_cons hblank hn
        rw [ih hrest, hcount]
    · rfl

/-- Indented fences are counted like lines of any other kind. -/
theorem ignoresEnd_indented : IgnoresEnd fun line => seemsFence line && !isFence line where
  nil := rfl
  append_blank hblanks := by
    rw [ignoresEnd_seemsFence.append_blank hblanks, ignoresEnd_isFence.append_blank hblanks]

/-- No line seems a fence without being one. -/
theorem unindented_iff_lineCount {s : Text} :
    Unindented s ↔ lineCount (fun line => seemsFence line && !isFence line) s = 0 := by
  simp [Unindented, lineCount, List.countP_eq_zero]

theorem unindented_trimEnd {s : Text} (h : Unindented s) : Unindented s.trimEnd := by
  rw [unindented_iff_lineCount, lineCount_trimEnd ignoresEnd_indented]
  exact unindented_iff_lineCount.1 h

/-- The passes behind link isolation keep the number of fences. -/
theorem lineCount_strippedLines {s : Text} (h : Unindented s) :
    (limitNewlines 0 (trimDocument (stripAfterLinks s))).lines.countP isFence =
      lineCount isFence s := by
  obtain ⟨hcount, hkept⟩ := countP_stripLinesAfterLinks h false false
  rw [← splitOn_stripAfterLinks] at hcount hkept
  calc (limitNewlines 0 (trimDocument (stripAfterLinks s))).lines.countP isFence
      = lineCount isFence (trimDocument (stripAfterLinks s)) := by
        rw [countP_lines ignoresEnd_isFence, lineCount_limitNewlines ignoresEnd_isFence]
    _ = lineCount isFence (stripAfterLinks s).trimEnd :=
        lineCount_dropTerminators (unindented_trimEnd hkept)
    _ = lineCount isFence s := by
        rw [lineCount_trimEnd ignoresEnd_isFence]
        exact hcount

end Layout

/-! ## The content before its link lines are isolated -/

namespace Content

/-- The text of the content with a newline in place of every link line. -/
def cutAtLinks (c : Content) : Text :=
  c.flatMap fun
    | .char x => [x]
    | .link _ => ['\n']
    | _ => []

/-- The text of the content with every link line printed on lines of its own. -/
def parted (c : Content) : Text :=
  c.flatMap fun
    | .char x => [x]
    | .link line => '\n' :: line.print ++ ['\n']
    | _ => []

/-- The text that the content begins with, up to its first link line or newline. -/
def lead (c : Content) : Text :=
  plainText (c.takeWhile fun atom => !atom.isLink && atom != .char '\n')

variable {c d : Content} {x : Char} {p : Text → Bool}

theorem lead_char (hx : x ≠ '\n') : lead (.char x :: c) = x :: lead c := by
  simp [lead, plainText, Atom.isLink, hx]

@[simp]
theorem lead_newline : lead (.char '\n' :: c) = [] := by
  simp [lead, plainText]

@[simp]
theorem lead_link (line : LinkLine) : lead (.link line :: c) = [] := by
  simp [lead, plainText, Atom.isLink]

@[simp]
theorem lead_nil : lead [] = [] := rfl

/-- Link lines are not what a content begins with. -/
theorem lead_of_isLink (h : ∀ atom ∈ c, atom.isLink) : lead c = [] := by
  cases c with
  | nil => rfl
  | cons atom rest =>
    have hatom := h atom List.mem_cons_self
    cases atom <;> simp_all [Atom.isLink]

/-- Link lines behind the content do not change what it begins with. -/
theorem lead_append_of_isLink (h : ∀ atom ∈ d, atom.isLink) : lead (c ++ d) = lead c := by
  induction c with
  | nil => exact lead_of_isLink h
  | cons atom rest ih =>
    rw [List.cons_append, lead, lead, List.takeWhile_cons, List.takeWhile_cons]
    split
    · rw [plainText, plainText, List.filterMap_cons, List.filterMap_cons, ← plainText, ← plainText,
        ← lead, ← lead, ih]
    · rfl

/-- What stands behind a link line, if more link lines are put behind the content. -/
theorem lead_behind_append_of_isLink (h : ∀ atom ∈ d, atom.isLink) {before after : Content}
    {line : LinkLine} (heq : c ++ d = before ++ .link line :: after) :
    lead after = [] ∨ ∃ more, c = before ++ .link line :: more ∧ lead after = lead more := by
  rcases List.append_eq_append_iff.1 heq with ⟨more, -, htail⟩ | ⟨more, hc, htail⟩
  · exact .inl (lead_of_isLink fun atom hatom => h atom (by rw [htail]; simp [hatom]))
  · cases more with
    | nil =>
      rw [List.nil_append] at htail
      exact .inl (lead_of_isLink fun atom hatom =>
        h atom (by rw [← htail]; exact List.mem_cons_of_mem _ hatom))
    | cons atom more =>
      obtain ⟨rfl, rfl⟩ := List.cons.inj htail
      exact .inr ⟨more, hc, lead_append_of_isLink h⟩

/-- Link lines hold no newline. -/
theorem splitOn_of_isLink (h : ∀ atom ∈ c, atom.isLink) : splitOn (.char '\n') c = [c] := by
  rw [splitOn_eq_list]
  exact List.splitOn_eq_singleton fun hmem => absurd (h _ hmem) Bool.false_ne_true

/-- The pieces between newlines and link lines begin with the lines of the content.  The other
pieces stand behind a link line. -/
theorem exists_splitOn_cutAtLinks
    (h : ∀ before line after, c = before ++ .link line :: after → p (lead after) = false) :
    ∃ others line lines, Text.splitOn '\n' c.cutAtLinks = lead c :: others ∧
      splitOn (.char '\n') c = line :: lines ∧ lead line = lead c ∧
        others.countP p = lines.countP fun line => p (lead line) := by
  induction c with
  | nil => exact ⟨[], [], [], rfl, rfl, rfl, rfl⟩
  | cons atom rest ih =>
    obtain ⟨others, line, lines, hcut, hsplit, hlead, hcount⟩ :=
      ih fun before line after hrest => h (atom :: before) line after (by rw [hrest]; rfl)
    cases atom with
    | char x =>
      by_cases hx : x = '\n'
      · subst hx
        refine ⟨lead rest :: others, [], line :: lines, ?_, ?_, by simp, ?_⟩
        · rw [lead_newline, ← hcut]
          rfl
        · rw [splitOn, if_pos rfl, hsplit]
        · rw [List.countP_cons, List.countP_cons, hcount, hlead]
      · refine ⟨others, .char x :: line, lines, ?_, ?_, ?_, hcount⟩
        · have hcons : cutAtLinks (.char x :: rest) = x :: cutAtLinks rest := rfl
          rw [hcons, Text.splitOn, if_neg hx, hcut, lead_char hx]
        · rw [splitOn, if_neg (by simp [hx]), hsplit]
        · rw [lead_char hx, lead_char hx, hlead]
    | link shown =>
      -- the piece behind the link line passes no test, so only those of the other lines count
      have hbehind : p (lead rest) = false := h [] shown rest rfl
      refine ⟨lead rest :: others, .link shown :: line, lines, ?_, ?_, by simp, ?_⟩
      · rw [lead_link, ← hcut]
        rfl
      · rw [splitOn, if_neg (by simp), hsplit]
      · rw [List.countP_cons, hcount, hbehind]
        simp
    -- all other marks show nothing
    | boundary =>
      exact ⟨others, .boundary :: line, lines, hcut, by simp [splitOn, hsplit], hlead, hcount⟩
    | hardBreak =>
      exact ⟨others, .hardBreak :: line, lines, hcut, by simp [splitOn, hsplit], hlead, hcount⟩
    | cellEnd =>
      exact ⟨others, .cellEnd :: line, lines, hcut, by simp [splitOn, hsplit], hlead, hcount⟩

/-- Only the lines of the content count, if nothing behind a link line does. -/
theorem lineCount_cutAtLinks
    (h : ∀ before line after, c = before ++ .link line :: after → p (lead after) = false) :
    Layout.lineCount p c.cutAtLinks =
      (splitOn (.char '\n') c).countP fun line => p (lead line) := by
  obtain ⟨others, line, lines, hcut, hsplit, hlead, hcount⟩ := exists_splitOn_cutAtLinks h
  rw [Layout.lineCount, hcut, hsplit, List.countP_cons, List.countP_cons, hcount, hlead]

/-- The lines of the content are ended, none of them is an indented fence, and the fences among
them come in pairs. -/
def Fenced (c : Content) : Prop :=
  ∃ lines, EndsLines c lines ∧
    (∀ line ∈ lines, Layout.seemsFence (lead line) → Layout.isFence (lead line)) ∧
    Even (lines.countP fun line => Layout.isFence (lead line))

namespace Fenced

theorem nil : Fenced [] :=
  ⟨[], .nil, by simp, ⟨0, rfl⟩⟩

/-- Such contents stand one behind the other. -/
theorem append (hc : Fenced c) (hd : Fenced d) : Fenced (c ++ d) := by
  obtain ⟨lines, hlines, hindent, heven⟩ := hc
  obtain ⟨others, hothers, hindent', heven'⟩ := hd
  refine ⟨lines ++ others, hlines.append hothers, fun line hline => ?_, ?_⟩
  · exact (List.mem_append.1 hline).elim (hindent line) (hindent' line)
  · rw [List.countP_append]
    exact heven.add heven'

end Fenced

end Content

namespace Layout

/-! ## Isolating the link lines -/

section

variable {p : Text → Bool} (hp : IgnoresEnd p)
include hp

/-- Ending a line adds a newline, or leaves the one that is there; the spaces that are dropped
before it count nothing. -/
theorem lineCount_endLine_append (written rest : Text) :
    lineCount p ((endLine written).reverse ++ rest) =
      lineCount p (written.reverse ++ '\n' :: rest) := by
  unfold endLine
  split
  · -- nothing is written, and the line would be empty
    rw [List.reverse_nil, List.nil_append, List.nil_append, lineCount_newline_cons hp]
  · -- the line is ended already
    rename_i before
    rw [List.reverse_cons, List.append_assoc, List.singleton_append, List.append_assoc,
      List.singleton_append, lineCount_append_cons, lineCount_append_cons,
      lineCount_newline_cons hp]
  · -- the spaces at the end of the line go, and do not count
    obtain ⟨spaces, hwritten, hspaces⟩ :=
      List.exists_append_dropWhile (fun c => c == ' ' || c == '\t') written
    have hblank : ∀ c ∈ spaces.reverse, isBlank c := by
      intro c hc
      rcases Bool.or_eq_true_iff.1 (hspaces c (List.mem_reverse.1 hc)) with h | h <;>
        rw [eq_of_beq h] <;> decide
    conv => rhs; rw [hwritten]
    rw [List.reverse_cons, List.append_assoc, List.singleton_append, lineCount_append_cons,
      lineCount_append_cons, List.reverse_append, lineCount_append_blank hp hblank, dropEndSpaces]

/-- Link lines are written on lines of their own, whatever was written before them. -/
theorem lineCount_isolateLinksAfter (written : Text) (afterLink : Bool) (c : Content) :
    lineCount p (isolateLinksAfter written afterLink c) =
      lineCount p (written.reverse ++ if afterLink then '\n' :: c.parted else c.parted) := by
  induction c generalizing written afterLink with
  | nil =>
    rw [isolateLinksAfter, Content.parted, List.flatMap_nil]
    -- the line of the last link is still to be ended
    cases afterLink with
    | false => rw [if_neg Bool.false_ne_true, List.append_nil]
    | true => rw [if_pos rfl, lineCount_append_cons, lineCount_nil hp, Nat.add_zero]
  | cons atom rest ih =>
    cases atom with
    | char x =>
      have hcons : Content.parted (.char x :: rest) = x :: Content.parted rest := rfl
      rw [isolateLinksAfter, hcons]
      -- the next character ends the line, unless it is a newline
      cases afterLink with
      | false => simp [ih (x :: written) false]
      | true =>
        by_cases hx : x = '\n'
        · -- the newline is there already
          subst hx
          simp [ih ('\n' :: written) false, lineCount_append_cons, lineCount_newline_cons hp]
        · simp [hx, ih (x :: '\n' :: written) false]
    | link line =>
      have hcons : Content.parted (.link line :: rest) =
          '\n' :: (line.print ++ '\n' :: Content.parted rest) := by
        simp [Content.parted]
      rw [isolateLinksAfter, hcons, ih, if_pos rfl, List.reverse_append, List.reverse_reverse,
        List.append_assoc, lineCount_endLine_append hp]
      -- so does the next link line
      cases afterLink with
      | false => rw [if_neg Bool.false_ne_true]
      | true =>
        rw [if_pos rfl, lineCount_append_cons _ (line.print ++ _),
          lineCount_append_cons _ ('\n' :: _), lineCount_newline_cons hp]
    | boundary | hardBreak | cellEnd => exact ih written afterLink

/-- Isolating the link lines counts like printing each of them on lines of its own. -/
theorem lineCount_isolateLinks (c : Content) :
    lineCount p (isolateLinks c) = lineCount p c.parted := by
  rw [isolateLinks, lineCount_isolateLinksAfter hp, if_neg Bool.false_ne_true, List.reverse_nil,
    List.nil_append]

omit hp in
/-- Link lines that are printed on one line each, none of which counts, are no more than
newlines. -/
theorem lineCount_parted {c : Content}
    (hlinks : ∀ line, .link line ∈ c → '\n' ∉ line.print ∧ p line.print = false) (start : Text) :
    lineCount p (start ++ c.parted) = lineCount p (start ++ c.cutAtLinks) := by
  induction c generalizing start with
  | nil => rfl
  | cons atom rest ih =>
    have ih := ih fun line hline => hlinks line (List.mem_cons_of_mem _ hline)
    cases atom with
    | char x =>
      have hrest := ih (start ++ [x])
      rwa [List.append_assoc, List.append_assoc] at hrest
    | link line =>
      -- the line of the link is not counted, and parts what is around it
      obtain ⟨hline, hnot⟩ := hlinks line List.mem_cons_self
      have hcons : Content.parted (.link line :: rest) =
          '\n' :: (line.print ++ '\n' :: Content.parted rest) := by
        simp [Content.parted]
      have hcut : Content.cutAtLinks (.link line :: rest) = '\n' :: Content.cutAtLinks rest := rfl
      have hrest := ih []
      rw [List.nil_append, List.nil_append] at hrest
      rw [hcons, hcut, lineCount_append_cons, lineCount_append_cons, lineCount_append_cons,
        lineCount_of_not_mem hline hnot, hrest, Nat.zero_add]
    | boundary | hardBreak | cellEnd => exact ih start

end

/-- A printed link line begins with its arrow. -/
theorem seemsFence_print (line : LinkLine) : seemsFence line.print = false := by
  cases hlabel : line.label <;> simp [LinkLine.print, hlabel] <;> rfl

open Content in
/-- The document has an even number of fences, if its lines are fenced, its link lines are written
on one line each, and no text behind a link line begins like a fence. -/
theorem even_fences_layout {c trailing : Content}
    (hfenced : Fenced c.layoutParagraphs.resolveHardBreaks)
    (htrailing : ∀ atom ∈ trailing, atom.isLink)
    (hlinks : ∀ line, .link line ∈ c.layoutParagraphs.resolveHardBreaks ++ trailing →
      '\n' ∉ line.print)
    (hbehind : ∀ before line after,
      c.layoutParagraphs.resolveHardBreaks = before ++ .link line :: after →
        seemsFence (lead after) = false) :
    Even ((layout c trailing).lines.countP isFence) := by
  obtain ⟨lines, hlines, hindent, heven⟩ := hfenced
  rw [layout]
  generalize c.layoutParagraphs.resolveHardBreaks = body at hlines hlinks hbehind
  have hsplit : Content.splitOn (.char '\n') (body ++ trailing) = lines ++ [trailing] := by
    rw [hlines.splitOn_append, splitOn_of_isLink htrailing]
  have hlead : lead trailing = [] := lead_of_isLink htrailing
  -- whatever makes a line seem a fence is counted on the lines of the content
  have hcount {p : Text → Bool} (hp : IgnoresEnd p) (hseems : ∀ line, p line → seemsFence line) :
      lineCount p (isolateLinks (body ++ trailing)) =
        (lines ++ [trailing]).countP fun line => p (lead line) := by
    have hnot {line : Text} (h : seemsFence line = false) : p line = false :=
      Bool.eq_false_iff.2 fun hp => by
        rw [hseems line hp] at h
        cases h
    have hparted := lineCount_parted
      (fun line hline => ⟨hlinks line hline, hnot (seemsFence_print line)⟩) []
    rw [List.nil_append, List.nil_append] at hparted
    rw [lineCount_isolateLinks hp, hparted, ← hsplit]
    refine lineCount_cutAtLinks fun before line after heq => hnot ?_
    rcases lead_behind_append_of_isLink htrailing heq with hnil | ⟨more, hbody, hmore⟩
    · rw [hnil]
      rfl
    · rw [hmore]
      exact hbehind before line more hbody
  have hunindented : Unindented (isolateLinks (body ++ trailing)) :=
    unindented_iff_lineCount.2 <| by
      rw [hcount ignoresEnd_indented fun line h => (Bool.and_eq_true_iff.1 h).1]
      refine List.countP_eq_zero.2 fun line hline => ?_
      rcases List.mem_append.1 hline with hline | hline
      · simpa using hindent line hline
      · rw [List.mem_singleton.1 hline, hlead]
        exact Bool.false_ne_true
  rw [lineCount_strippedLines hunindented,
    hcount ignoresEnd_isFence fun line => seemsFence_of_isFence, List.countP_append,
    List.countP_singleton, hlead]
  exact heven

end Layout

end Gemtext
