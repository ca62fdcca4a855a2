import Gemtext.Proofs.Text.Wrap
import Gemtext.Text.CharWidth

/-!
# Lines are filled greedily

Wrapping cuts a text, without the blanks at its ends, into lines and what stands between them.
`Greedy` says where: a line ends in front of a gap if the next word does not fit on it as well, or
within a word if the next character of the word does not, and then the word is wider than a line.
A line is a stretch of the text as it is, the gaps between its words included.

`greedy_wrap` shows by induction on the words that the wrapped lines are such lines; within it,
`greedy_breakWord` follows the pieces of a word that is broken.  A text that fits on a line is one
line (`wrap_of_width_le`).
-/

namespace Gemtext

namespace Text

variable {measure : Measure} {limit : Nat}

/-! ## Lines and what stands between them -/

/-- The word, or the end of one, that the text begins with. -/
def leadingWord (s : Text) : Text :=
  s.takeWhile fun c => !isBlank c

/-- The word, or the beginning of one, that the text ends with. -/
def trailingWord (s : Text) : Text :=
  s.rtakeWhile fun c => !isBlank c

/-- Behind the text `done`, a text is laid on lines of `limit` columns, each of which ends because
what comes next does not fit. -/
inductive Greedy (measure : Measure) (limit : Nat) : Text → Text → List Text → Prop where
  /-- The last line is what is left. -/
  | last (done line : Text) : Greedy measure limit done line [line]
  /-- The next word does not fit, with the gap before it. -/
  | between {done line gap rest : Text} {lines : List Text} (hgap : gap ≠ [])
    (hblank : ∀ c ∈ gap, isBlank c)
    (hfull : limit < width measure (line ++ gap ++ leadingWord rest))
    (hrest : Greedy measure limit (done ++ line ++ gap) rest lines) :
    Greedy measure limit done (line ++ gap ++ rest) (line :: lines)
  /-- The next character does not fit, and the word that it belongs to is too wide for a line. -/
  | within {done line rest : Text} {c : Char} {lines : List Text} (hvisible : isBlank c = false)
    (hfull : limit < width measure (line ++ [c]))
    (hwide : limit < width measure (trailingWord (done ++ line) ++ leadingWord (c :: rest)))
    (hrest : Greedy measure limit (done ++ line) (c :: rest) lines) :
    Greedy measure limit done (line ++ c :: rest) (line :: lines)

/-- What fits on a line is one line. -/
theorem Greedy.eq_singleton {done rest : Text} {lines : List Text}
    (h : Greedy measure limit done rest lines) (hfits : width measure rest ≤ limit) :
    lines = [rest] := by
  have hword (s : Text) : width measure (leadingWord s) ≤ width measure s := by
    conv => rhs; rw [← List.takeWhile_append_dropWhile (p := fun c => !isBlank c) (l := s)]
    rw [width_append]
    exact Nat.le_add_right _ _
  -- neither a gap nor a place within a word would pass the limit
  cases h with
  | last => rfl
  | @between _ _ _ rest _ _ _ hfull =>
    have hrest := hword rest
    simp only [width_append] at hfits hfull
    omega
  | within _ hfull =>
    simp only [width_append, width_cons, width_nil] at hfits hfull
    omega

/-! ## Words at the ends of a text -/

/-- A word ends where a gap begins, or the text ends. -/
theorem leadingWord_append {word : Text} (h : ∀ c ∈ word, isBlank c = false) (s : Text) :
    leadingWord (word ++ s) = word ++ leadingWord s :=
  List.takeWhile_append_of_pos fun c hc => by simp [h c hc]

/-- Visible characters lengthen the word that the text ends with. -/
theorem trailingWord_append {word : Text} (h : ∀ c ∈ word, isBlank c = false) (s : Text) :
    trailingWord (s ++ word) = trailingWord s ++ word := by
  rw [trailingWord, trailingWord, List.rtakeWhile, List.rtakeWhile, List.reverse_append,
    List.takeWhile_append_of_pos fun c hc => by simp [h c (List.mem_reverse.1 hc)],
    List.reverse_append, List.reverse_reverse]

/-- Behind a word comes a gap, or nothing. -/
theorem leadingWord_flatMap_chars {ws : List GapWord}
    (h : ∀ w ∈ ws, w.Proper ∧ w.gap ≠ []) : leadingWord (ws.flatMap GapWord.chars) = [] := by
  cases ws with
  | nil => rfl
  | cons next more =>
    obtain ⟨hproper, hgap⟩ := h next List.mem_cons_self
    obtain ⟨c, gap, hc⟩ := List.exists_cons_of_ne_nil hgap
    have hblank : isBlank c := hproper.blank c (by simp [hc])
    simp [leadingWord, GapWord.chars, hc, hblank]

/-! ## The lines of words -/

/-- If what follows the last piece of a word is laid on lines greedily, whatever that piece is, then
so are all the pieces, which end within the word. -/
theorem greedy_breakWord {more : Text} {fill : Text → List Text}
    (hfill : ∀ done piece, Greedy measure limit done (piece ++ more) (fill piece))
    {piece word : Text} (hpiece : ∀ c ∈ piece, isBlank c = false)
    (hword : ∀ c ∈ word, isBlank c = false) (done : Text) :
    Greedy measure limit done (piece ++ word ++ more)
      ((breakWord measure limit piece word).dropLast ++
        fill ((breakWord measure limit piece word).getLastD [])) := by
  induction word generalizing piece done with
  | nil =>
    rw [List.append_nil]
    exact hfill done piece
  | cons c word ih =>
    obtain ⟨hc, hword⟩ := List.forall_mem_cons.1 hword
    rw [breakWord]
    -- the piece ends in front of the character, or takes it and goes on
    split
    · rename_i hover
      rw [Bool.and_eq_true, decide_eq_true_eq] at hover
      have hfull : limit < width measure (piece ++ [c]) := by
        rw [width_append, width_cons, width_nil]
        exact hover.2
      -- the piece and the character are part of the word
      have hwide : limit <
          width measure (trailingWord (done ++ piece) ++ leadingWord (c :: (word ++ more))) := by
        have hlead : leadingWord (c :: (word ++ more)) = [c] ++ leadingWord (word ++ more) :=
          leadingWord_append (List.forall_mem_singleton.2 hc) _
        rw [trailingWord_append hpiece, hlead]
        simp only [width_append] at hfull ⊢
        omega
      have hnonempty : breakWord measure limit [c] word ≠ [] := breakWord_ne_nil limit [c] word
      obtain ⟨next, others, hpieces⟩ := List.exists_cons_of_ne_nil hnonempty
      have hrest := ih (List.forall_mem_singleton.2 hc) hword (done ++ piece)
      rw [hpieces] at hrest ⊢
      rw [List.append_assoc]
      exact .within hc hfull hwide hrest
    · have hlonger : ∀ d ∈ piece ++ [c], isBlank d = false := fun d hd =>
        (List.mem_append.1 hd).elim (hpiece d) fun hd => List.mem_singleton.1 hd ▸ hc
      have hsame : piece ++ c :: word = piece ++ [c] ++ word := by simp
      rw [hsame]
      exact ih hlonger hword done

/-- Words are put on the line as long as they fit, so the lines are filled greedily. -/
theorem greedy_fillLines {ws : List GapWord} (h : ∀ w ∈ ws, w.Proper ∧ w.gap ≠ [])
    (done start : Text) :
    Greedy measure limit done (start ++ ws.flatMap GapWord.chars)
      (fillLines measure limit start ws) := by
  induction ws generalizing done start with
  | nil =>
    rw [List.flatMap_nil, List.append_nil]
    exact .last done start
  | cons next more ih =>
    obtain ⟨⟨hproper, hgap⟩, hmore⟩ := List.forall_mem_cons.1 h
    have hchars : start ++ (next :: more).flatMap GapWord.chars =
        start ++ next.gap ++ (next.word ++ more.flatMap GapWord.chars) := by
      simp [GapWord.chars]
    rw [fillLines]
    dsimp only
    split
    · -- the word joins the line, which is then the start for the words behind it
      rw [hchars, ← List.append_assoc]
      exact ih hmore done _
    · -- the line ends in front of the gap, and the word may have to be broken
      rename_i hover
      have hlead : leadingWord (next.word ++ more.flatMap GapWord.chars) = next.word := by
        rw [leadingWord_append hproper.visible, leadingWord_flatMap_chars hmore, List.append_nil]
      rw [hchars]
      refine .between hgap hproper.blank (by rw [hlead]; omega) ?_
      exact greedy_breakWord (fun done piece => ih hmore done piece) (List.forall_mem_nil _)
        hproper.visible _

/-! ## The lines of a text -/

/-- A text that begins with a visible word and goes on with gaps and words ends visibly, too. -/
theorem framed_append_flatMap_chars {start : Text} (hstart : Framed start) {ws : List GapWord}
    (h : ∀ w ∈ ws, w.Proper) : Framed (start ++ ws.flatMap GapWord.chars) := by
  induction ws generalizing start with
  | nil => simpa using hstart
  | cons next more ih =>
    obtain ⟨hnext, hmore⟩ := List.forall_mem_cons.1 h
    have hlonger : Framed (start ++ next.gap ++ next.word) :=
      hstart.append (.of_visible hnext.ne_nil hnext.visible) next.gap
    have hchars : start ++ (next :: more).flatMap GapWord.chars =
        start ++ next.gap ++ next.word ++ more.flatMap GapWord.chars := by
      simp [GapWord.chars]
    rw [hchars]
    exact ih hlonger hmore

/-- Trimming leaves the words, and the gaps between them. -/
theorem trim_of_gapWords {s : Text} {first : GapWord} {more : List GapWord}
    (h : gapWords s = first :: more) : s.trim = first.word ++ more.flatMap GapWord.chars := by
  obtain ⟨blanks, hs, hblanks⟩ := exists_gapWords_append s
  obtain ⟨hfirst, hmore⟩ := List.forall_mem_cons.1 (h ▸ (proper_gapWords s).1)
  have hframed : Framed (first.word ++ more.flatMap GapWord.chars) :=
    framed_append_flatMap_chars (.of_visible hfirst.ne_nil hfirst.visible) hmore
  calc s.trim
      = trim (first.gap ++ (first.word ++ more.flatMap GapWord.chars)) := by
        rw [hs, trim_append_blank hblanks, h, List.flatMap_cons, GapWord.chars, List.append_assoc]
    _ = trim (first.word ++ more.flatMap GapWord.chars) := trim_blank_append hfirst.blank _
    _ = first.word ++ more.flatMap GapWord.chars := hframed.trim_eq

/-- The wrapped lines are the text, trimmed, filled greedily into lines; nothing is left of a blank
text. -/
theorem greedy_wrap (measure : Measure) (limit : Nat) (s : Text) :
    if (expandTabs measure 0 s).trim = [] then wrap measure limit s = []
    else Greedy measure (max limit 1) [] (expandTabs measure 0 s).trim (wrap measure limit s) := by
  cases hwords : gapWords (expandTabs measure 0 s) with
  | nil =>
    -- without words the text is blank
    obtain ⟨blanks, hs, hblanks⟩ := exists_gapWords_append (expandTabs measure 0 s)
    have htrim : (expandTabs measure 0 s).trim = [] := by
      rw [hs, hwords, trim_append_blank hblanks]
      rfl
    rw [if_pos htrim, wrap, hwords]
  | cons first more =>
    -- the first word starts the first line
    obtain ⟨hproper, hgaps⟩ := proper_gapWords (expandTabs measure 0 s)
    rw [hwords] at hproper hgaps
    obtain ⟨hfirst, hmore⟩ := List.forall_mem_cons.1 hproper
    have htrim := trim_of_gapWords hwords
    rw [if_neg (by rw [htrim]; exact List.append_ne_nil_of_left_ne_nil hfirst.ne_nil _), htrim,
      wrap, hwords]
    exact greedy_breakWord
      (greedy_fillLines fun w hw => ⟨hmore w hw, hgaps w hw⟩)
      (List.forall_mem_nil _) hfirst.visible []

/-- A text that fits into the limit is one line. -/
theorem wrap_of_width_le {s : Text} (hs : s.allBlank = false)
    (hfits : width measure (expandTabs measure 0 s) ≤ limit) :
    wrap measure limit s = [(expandTabs measure 0 s).trim] := by
  have hgreedy := greedy_wrap measure limit s
  split at hgreedy
  · exact absurd hgreedy (wrap_ne_nil hs)
  · refine hgreedy.eq_singleton (Nat.le_trans ?_ (Nat.le_trans hfits (Nat.le_max_left limit 1)))
    exact width_trim_le _

/-- Lines begin and end visibly. -/
theorem framed_of_mem_wrap {s line : Text} (h : line ∈ wrap measure limit s) : Framed line := by
  have hproper := (proper_gapWords (expandTabs measure 0 s)).1
  refine forall_mem_wrap Framed (fun w hw piece hpiece => ?_) (fun line hline w hw _ => ?_) line h
  · exact .of_visible (ne_nil_of_mem_breakWord (.inr (hproper w hw).ne_nil) hpiece)
      fun c hc => (hproper w hw).visible c (mem_of_mem_breakWord hpiece hc)
  · exact hline.append (.of_visible (hproper w hw).ne_nil (hproper w hw).visible) w.gap

/-- Wrapping is greedy word wrap.  Every line begins and ends visibly, and together the lines show
what the text shows.  They are within the limit, which is one column at least, unless a single
visible character is not.  And they are cut out of the text, with the gaps between the words of a
line as they are there, such that each line ends where the next word does not fit, or within a word
that is wider than a line, where its next character does not. -/
theorem wrap_fills_greedily (measure : Measure) (limit : Nat) (s : Text) :
    let columns := max limit 1
    let text := (expandTabs measure 0 s).trim
    let lines := wrap measure limit s
    (∀ line ∈ lines, Framed line) ∧ lines.flatMap visible = visible s ∧
      ((∀ c ∈ visible s, measure c ≤ columns) → ∀ line ∈ lines, width measure line ≤ columns) ∧
      if text = [] then lines = [] else Greedy measure columns [] text lines := by
  intro columns text lines
  refine ⟨fun line => framed_of_mem_wrap, visible_wrap measure limit s, fun hs line => ?_,
    greedy_wrap measure limit s⟩
  refine width_le_of_mem_wrap (Nat.le_refl _) fun c hc hvisible => hs c ?_
  -- expanding tabs neither adds nor drops a visible character
  have hshown : visible (expandTabs measure 0 s) = visible s := visible_expandTabs 0 s
  rw [← hshown]
  exact List.mem_filter.2 ⟨hc, by simp [hvisible]⟩

/-- Of wide characters, two fit on a line: the word of three of them is broken, and the next word
joins what is left of it. -/
theorem wrap_fills_greedily_wide :
    let s := "\ta  b 日本語 cc d ".toList
    let lines := ["a  b".toList, "日本".toList, "語 cc".toList, ['d']]
    wrap charWidth 5 s = lines ∧ ∀ line ∈ lines, width charWidth line ≤ 5 := by
  intro s lines
  have hlines : wrap charWidth 5 s = lines := by decide +kernel
  have hnarrow : (visible s).all fun c => charWidth c ≤ 5 := by decide +kernel
  have hvisible : ∀ c ∈ visible s, charWidth c ≤ 5 := fun c hc =>
    of_decide_eq_true (List.all_eq_true.1 hnarrow c hc)
  exact ⟨hlines, hlines ▸ (wrap_fills_greedily charWidth 5 s).2.2.1 hvisible⟩

end Text

end Gemtext
