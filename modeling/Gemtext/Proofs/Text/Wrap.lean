import Gemtext.Proofs.Text.Visible
import Gemtext.Text.Wrap
import Mathlib.Algebra.GroupWithZero.Nat
import Mathlib.Algebra.Order.BigOperators.Group.List
import Mathlib.Algebra.Order.Group.Nat

/-!
# Wrapped lines

Wrapping a line puts spaces in for its tabs, breaks it into words, and fills lines with them.  The
lines are built from pieces of words, and a line grows by a gap and a word only if it then fits
(`forall_mem_wrap`).  So the lines hold characters of the line and spaces only (`mem_wrap`), none of
them is wider than the limit unless a single character is (`width_le_of_mem_wrap`), and together
they show what the line shows (`visible_wrap`).
-/

namespace Gemtext

/-- The total is the sum of the library. -/
@[simp]
theorem total_eq_sum (ns : List Nat) : total ns = ns.sum := by
  induction ns with
  | nil => rfl
  | cons n ns ih => rw [total, ih, List.sum_cons]

namespace Text

variable {measure : Measure} {c : Char}

/-! ## Widths -/

theorem width_eq_sum (s : Text) : width measure s = (s.map measure).sum :=
  total_eq_sum _

@[simp]
theorem width_nil : width measure [] = 0 := rfl

@[simp]
theorem width_cons (c : Char) (s : Text) : width measure (c :: s) = measure c + width measure s :=
  rfl

@[simp]
theorem width_append (s t : Text) :
    width measure (s ++ t) = width measure s + width measure t := by
  simp [width_eq_sum]

theorem width_replicate (count : Nat) (c : Char) :
    width measure (List.replicate count c) = count * measure c := by
  simp [width_eq_sum]

/-- As many spaces are as wide as they are many. -/
theorem width_spaces (hspace : measure ' ' = 1) (count : Nat) :
    width measure (spaces count) = count := by
  rw [spaces, width_replicate, hspace, Nat.mul_one]

/-- No character is wider than the text. -/
theorem measure_le_width {s : Text} (h : c ∈ s) : measure c ≤ width measure s := by
  rw [width_eq_sum]
  exact List.le_sum_of_mem (List.mem_map_of_mem h)

/-- Trimming makes no text wider. -/
theorem width_trim_le (s : Text) : width measure s.trim ≤ width measure s := by
  obtain ⟨before, behind, hs⟩ := trim_isInfix s
  conv => rhs; rw [← hs]
  rw [width_append, width_append]
  omega

/-- Joined pieces are as wide as the pieces and what stands between each two. -/
theorem width_joinWith (sep : Text) (pieces : List Text) :
    width measure (joinWith sep pieces) =
      (pieces.map (width measure)).sum + width measure sep * (pieces.length - 1) := by
  induction pieces with
  | nil => simp [joinWith]
  | cons piece rest ih =>
    cases rest with
    | nil => simp [joinWith]
    | cons next more =>
      rw [joinWith_cons (List.cons_ne_nil next more), width_append, width_append, ih]
      simp only [List.map_cons, List.sum_cons, List.length_cons, Nat.add_sub_cancel, Nat.mul_add,
        Nat.mul_one]
      omega

/-! ## Tabs -/

theorem mem_spaces {count : Nat} (h : c ∈ spaces count) : c = ' ' :=
  (List.mem_replicate.1 h).2

/-- Spaces are not visible. -/
theorem visible_spaces (count : Nat) : visible (spaces count) = [] :=
  visible_of_isBlank fun c hc => by rw [mem_spaces hc]; decide

/-- A tab leads at least one column further. -/
theorem lt_nextTabStop (column : Nat) : column < nextTabStop column := by
  unfold nextTabStop
  omega

/-- Expanding tabs puts in nothing but spaces. -/
theorem mem_expandTabs {column : Nat} {s : Text} (h : c ∈ expandTabs measure column s) :
    c ∈ s ∨ c = ' ' := by
  induction s generalizing column with
  | nil => exact .inl h
  | cons first rest ih =>
    rw [expandTabs] at h
    split at h
    · rcases List.mem_append.1 h with h | h
      · exact .inr (mem_spaces h)
      · exact (ih h).imp_left (List.mem_cons_of_mem _)
    · rcases List.mem_cons.1 h with rfl | h
      · exact .inl List.mem_cons_self
      · exact (ih h).imp_left (List.mem_cons_of_mem _)

/-- Expanding leaves no tab. -/
theorem tab_not_mem_expandTabs (column : Nat) (s : Text) :
    '\t' ∉ expandTabs measure column s := by
  induction s generalizing column with
  | nil => exact List.not_mem_nil
  | cons first rest ih =>
    rw [expandTabs]
    split
    · -- spaces take the place of a tab
      intro h
      rcases List.mem_append.1 h with h | h
      · exact absurd (mem_spaces h) (by decide)
      · exact ih _ h
    · -- any other character stays
      rename_i htab
      intro h
      rcases List.mem_cons.1 h with h | h
      · exact htab h.symm
      · exact ih _ h

/-- A text without tabs has nothing to expand. -/
theorem expandTabs_of_not_mem {s : Text} (h : '\t' ∉ s) (column : Nat) :
    expandTabs measure column s = s := by
  induction s generalizing column with
  | nil => rfl
  | cons first rest ih =>
    simp only [List.mem_cons, not_or] at h
    rw [expandTabs, if_neg (Ne.symm h.1), ih h.2]

/-- Spaces lead to the columns that tabs lead to. -/
theorem columnAfter_eq (hspace : measure ' ' = 1) (column : Nat) (s : Text) :
    columnAfter measure column s = column + width measure (expandTabs measure column s) := by
  induction s generalizing column with
  | nil => rfl
  | cons first rest ih =>
    rw [columnAfter, ih, expandTabs]
    split
    · have hlt := lt_nextTabStop column
      rw [width_append, width_spaces hspace]
      omega
    · rw [width_cons]
      omega

/-- No line of a cell is wider than the cell. -/
theorem width_expandTabs_le_cellWidth (hspace : measure ' ' = 1) {cell piece : Text}
    (hpiece : piece ∈ splitOn '\n' cell) :
    width measure (expandTabs measure 0 piece) ≤ cellWidth measure cell := by
  have hcolumn : columnAfter measure 0 piece ≤ cellWidth measure cell :=
    (List.le_foldl_max _ 0).2 _ (List.mem_map_of_mem hpiece)
  rwa [columnAfter_eq hspace, Nat.zero_add] at hcolumn

/-- No character of a cell is wider than the cell. -/
theorem measure_le_cellWidth (hspace : measure ' ' = 1) {cell piece : Text}
    (hpiece : piece ∈ splitOn '\n' cell) (h : c ∈ expandTabs measure 0 piece) :
    measure c ≤ cellWidth measure cell :=
  Nat.le_trans (measure_le_width h) (width_expandTabs_le_cellWidth hspace hpiece)

/-- Only tabs are expanded. -/
theorem mem_expandTabs_of_mem (column : Nat) {s : Text} (h : c ∈ s) (htab : c ≠ '\t') :
    c ∈ expandTabs measure column s := by
  induction s generalizing column with
  | nil => cases h
  | cons first rest ih =>
    rw [expandTabs]
    rcases List.mem_cons.1 h with rfl | h
    · rw [if_neg htab]
      exact List.mem_cons_self
    · split
      · exact List.mem_append_right _ (ih _ h)
      · exact List.mem_cons_of_mem _ (ih _ h)

/-- No character of a cell is wider than the cell. -/
theorem measure_le_cellWidth_of_mem (hspace : measure ' ' = 1) {cell : Text} (h : c ∈ cell)
    (hnewline : c ≠ '\n') (htab : c ≠ '\t') : measure c ≤ cellWidth measure cell := by
  obtain ⟨piece, hpiece, hc⟩ := exists_mem_splitOn h hnewline
  exact measure_le_cellWidth hspace hpiece (mem_expandTabs_of_mem 0 hc htab)

/-- Expanding tabs keeps the visible characters. -/
theorem visible_expandTabs (column : Nat) (s : Text) :
    visible (expandTabs measure column s) = visible s := by
  induction s generalizing column with
  | nil => rfl
  | cons first rest ih =>
    rw [expandTabs]
    split
    · rename_i htab
      have hblank : visible [first] = [] := by rw [htab]; rfl
      rw [visible_append, visible_spaces, ih, visible_cons first rest, hblank]
    · rw [visible_cons, ih, ← visible_cons]

/-! ## Words -/

/-- The characters of a word and of the gap before it. -/
def GapWord.chars (w : GapWord) : Text :=
  w.gap ++ w.word

/-- The words, each with the gap before it, spell the text up to the blanks at its end. -/
theorem exists_gapWords_append (s : Text) :
    ∃ blanks, s = (gapWords s).flatMap GapWord.chars ++ blanks ∧ ∀ c ∈ blanks, isBlank c := by
  induction s with
  | nil => exact ⟨[], rfl, List.forall_mem_nil _⟩
  | cons first rest ih =>
    obtain ⟨blanks, hrest, hblanks⟩ := ih
    rw [gapWords]
    cases hwords : gapWords rest with
    | nil =>
      rw [hwords] at hrest
      dsimp only
      split
      · rename_i hfirst
        exact ⟨first :: blanks, by rw [hrest]; rfl, List.forall_mem_cons.2 ⟨hfirst, hblanks⟩⟩
      · exact ⟨blanks, by rw [hrest]; rfl, hblanks⟩
    | cons next more =>
      -- the character goes to the next gap or word, or it is a word of its own
      rw [hwords] at hrest
      refine ⟨blanks, ?_, hblanks⟩
      dsimp only
      split
      · rw [hrest]
        rfl
      · split
        · rename_i hgap
          rw [hrest]
          simp [GapWord.chars, List.isEmpty_iff.1 hgap]
        · rw [hrest]
          rfl

/-- Words and gaps hold only characters of the text. -/
theorem mem_gapWords {s : Text} {w : GapWord} (hw : w ∈ gapWords s) (h : c ∈ w.chars) : c ∈ s := by
  obtain ⟨blanks, hs, -⟩ := exists_gapWords_append s
  rw [hs]
  exact List.mem_append_left _ (List.mem_flatMap.2 ⟨w, hw, h⟩)

/-- The words are what is visible of the text. -/
theorem flatMap_word_gapWords (s : Text) : (gapWords s).flatMap GapWord.word = visible s := by
  induction s with
  | nil => rfl
  | cons first rest ih =>
    rw [gapWords, visible_cons, ← ih]
    cases hrest : gapWords rest with
    | nil => cases hfirst : isBlank first <;> simp [hfirst, visible]
    | cons next more =>
      cases hfirst : isBlank first with
      | true => simp [hfirst, visible]
      | false =>
        cases hgap : next.gap.isEmpty <;> simp [hfirst, hgap, visible]

/-- A visible word, and the blank gap before it. -/
structure GapWord.Proper (w : GapWord) : Prop where
  ne_nil : w.word ≠ []
  visible : ∀ c ∈ w.word, isBlank c = false
  blank : ∀ c ∈ w.gap, isBlank c

/-- Gaps are blank and words are visible, and between two words there is a gap. -/
theorem proper_gapWords (s : Text) :
    (∀ w ∈ gapWords s, w.Proper) ∧ ∀ w ∈ (gapWords s).tail, w.gap ≠ [] := by
  induction s with
  | nil => exact ⟨List.forall_mem_nil _, List.forall_mem_nil _⟩
  | cons first rest ih =>
    obtain ⟨hproper, hgaps⟩ := ih
    rw [gapWords]
    cases hwords : gapWords rest with
    | nil =>
      dsimp only
      split
      · exact ⟨List.forall_mem_nil _, List.forall_mem_nil _⟩
      · rename_i hfirst
        -- a visible character is the last word by itself
        exact ⟨by simpa using ⟨List.cons_ne_nil _ _, by simpa using hfirst, by simp⟩, by simp⟩
    | cons next more =>
      rw [hwords] at hproper hgaps
      obtain ⟨hnext, hmore⟩ := List.forall_mem_cons.1 hproper
      dsimp only
      split
      · rename_i hfirst
        -- a blank one goes to the gap before the next word
        refine ⟨List.forall_mem_cons.2 ⟨⟨hnext.ne_nil, hnext.visible, ?_⟩, hmore⟩, hgaps⟩
        exact List.forall_mem_cons.2 ⟨hfirst, hnext.blank⟩
      · -- a visible character begins a word or lengthens one, and adds to no gap
        rename_i hfirst
        rw [Bool.not_eq_true] at hfirst
        split
        · refine ⟨List.forall_mem_cons.2 ⟨⟨List.cons_ne_nil _ _, ?_, by simp⟩, hmore⟩, hgaps⟩
          exact List.forall_mem_cons.2 ⟨hfirst, hnext.visible⟩
        · rename_i hgap
          refine ⟨List.forall_mem_cons.2 ⟨⟨List.cons_ne_nil _ _, by simpa, by simp⟩, hproper⟩, ?_⟩
          exact List.forall_mem_cons.2 ⟨by simpa [List.isEmpty_iff] using hgap, hgaps⟩

/-! ## Pieces of a word -/

/-- The pieces of a broken word spell it. -/
theorem flatten_breakWord (limit : Nat) (piece s : Text) :
    (breakWord measure limit piece s).flatten = piece ++ s := by
  induction s generalizing piece with
  | nil => simp [breakWord]
  | cons first rest ih =>
    rw [breakWord]
    split
    · rw [List.flatten_cons, ih]
      rfl
    · rw [ih, List.append_assoc]
      rfl

/-- Breaking a word leaves a piece, even of an empty one. -/
theorem breakWord_ne_nil (limit : Nat) (piece s : Text) : breakWord measure limit piece s ≠ [] := by
  induction s generalizing piece with
  | nil => exact List.cons_ne_nil _ _
  | cons first rest ih =>
    rw [breakWord]
    split
    · exact List.cons_ne_nil _ _
    · exact ih _

/-- The pieces are those before the last one, and the last one. -/
theorem dropLast_append_getLastD_breakWord (limit : Nat) (word : Text) :
    (breakWord measure limit [] word).dropLast ++ [(breakWord measure limit [] word).getLastD []] =
      breakWord measure limit [] word := by
  rw [List.getLastD_eq_getLast?, List.getLast?_eq_some_getLast (breakWord_ne_nil limit [] word)]
  exact List.dropLast_append_getLast _

/-- No piece of a word is empty. -/
theorem ne_nil_of_mem_breakWord {limit : Nat} {start word piece : Text}
    (h : start ≠ [] ∨ word ≠ []) (hpiece : piece ∈ breakWord measure limit start word) :
    piece ≠ [] := by
  induction word generalizing start with
  | nil =>
    rw [List.mem_singleton.1 hpiece]
    exact h.resolve_right (not_not_intro rfl)
  | cons first rest ih =>
    rw [breakWord] at hpiece
    split at hpiece
    · rename_i hover
      -- a piece is ended only if it holds something
      rcases List.mem_cons.1 hpiece with rfl | hpiece
      · rintro rfl
        simp at hover
      · exact ih (.inl (List.cons_ne_nil first [])) hpiece
    · exact ih (.inl (by simp)) hpiece

/-- The pieces hold characters of the word. -/
theorem mem_of_mem_breakWord {limit : Nat} {word piece : Text}
    (hpiece : piece ∈ breakWord measure limit [] word) (h : c ∈ piece) : c ∈ word := by
  rw [← List.nil_append word, ← flatten_breakWord limit [] word]
  exact List.mem_flatten.2 ⟨piece, hpiece, h⟩

/-- A piece is within the limit, unless a single character is not. -/
theorem width_le_of_mem_breakWord {limit bound : Nat} (hlimit : limit ≤ bound) {start word : Text}
    (hstart : width measure start ≤ bound) (hword : ∀ c ∈ word, measure c ≤ bound) {piece : Text}
    (h : piece ∈ breakWord measure limit start word) : width measure piece ≤ bound := by
  induction word generalizing start with
  | nil =>
    rw [List.mem_singleton.1 h]
    exact hstart
  | cons first rest ih =>
    have hfirst := hword first List.mem_cons_self
    have hrest : ∀ c ∈ rest, measure c ≤ bound := fun c hc => hword c (List.mem_cons_of_mem _ hc)
    rw [breakWord] at h
    split at h
    · rcases List.mem_cons.1 h with rfl | h
      · exact hstart
      · exact ih (by simpa using hfirst) hrest h
    · rename_i hfits
      refine ih ?_ hrest h
      -- the character fits into the piece, or it begins one
      cases start with
      | nil => simpa using hfirst
      | cons d more =>
        simp only [List.isEmpty_cons, Bool.not_false, Bool.true_and, decide_eq_true_eq] at hfits
        rw [width_append, width_cons first, width_nil]
        omega

/-! ## Lines -/

section

variable {limit : Nat} {good : Text → Prop}

/-- What holds of the pieces of words, and is kept when a line grows within the limit, holds of all
lines that are filled. -/
theorem forall_mem_fillLines {start : Text} {ws : List GapWord} (hstart : good start)
    (hpieces : ∀ w ∈ ws, ∀ piece ∈ breakWord measure limit [] w.word, good piece)
    (hgrow : ∀ line, good line → ∀ w ∈ ws,
      width measure (line ++ w.gap ++ w.word) ≤ limit → good (line ++ w.gap ++ w.word)) :
    ∀ line ∈ fillLines measure limit start ws, good line := by
  induction ws generalizing start with
  | nil =>
    intro line hline
    rw [List.mem_singleton.1 hline]
    exact hstart
  | cons next rest ih =>
    have hlater : ∀ start, good start → ∀ line ∈ fillLines measure limit start rest, good line :=
      fun start hstart => ih hstart
        (fun w hw => hpieces w (List.mem_cons_of_mem _ hw))
        fun line hline w hw => hgrow line hline w (List.mem_cons_of_mem _ hw)
    have hnext := hpieces next List.mem_cons_self
    rw [← dropLast_append_getLastD_breakWord limit next.word] at hnext
    intro line hline
    rw [fillLines] at hline
    split at hline
    · -- the line grows by the word
      rename_i hfits
      exact hlater _ (hgrow start hstart next List.mem_cons_self hfits) line hline
    · -- the line ends, and the word goes to lines of its own
      rcases List.mem_append.1 hline with hline | hline
      · rcases List.mem_cons.1 hline with rfl | hline
        · exact hstart
        · exact hnext line (List.mem_append_left _ hline)
      · exact hlater _ (hnext _ (List.mem_append_right _ (List.mem_singleton_self _))) line hline

/-- What holds of the pieces of words, and is kept when a line grows within the limit, holds of all
wrapped lines. -/
theorem forall_mem_wrap (good : Text → Prop) {s : Text}
    (hpieces : ∀ w ∈ gapWords (expandTabs measure 0 s),
      ∀ piece ∈ breakWord measure (max limit 1) [] w.word, good piece)
    (hgrow : ∀ line, good line → ∀ w ∈ gapWords (expandTabs measure 0 s),
      width measure (line ++ w.gap ++ w.word) ≤ max limit 1 → good (line ++ w.gap ++ w.word)) :
    ∀ line ∈ wrap measure limit s, good line := by
  intro line hline
  rw [wrap] at hline
  cases hwords : gapWords (expandTabs measure 0 s) with
  | nil => simp [hwords] at hline
  | cons first rest =>
    rw [hwords] at hpieces hgrow
    have hfirst := hpieces first List.mem_cons_self
    rw [← dropLast_append_getLastD_breakWord (max limit 1) first.word] at hfirst
    simp only [hwords] at hline
    -- the pieces of the first word end lines, and the last of them starts one
    rcases List.mem_append.1 hline with hline | hline
    · exact hfirst line (List.mem_append_left _ hline)
    · exact forall_mem_fillLines (hfirst _ (List.mem_append_right _ (List.mem_singleton_self _)))
        (fun w hw => hpieces w (List.mem_cons_of_mem _ hw))
        (fun line hline w hw => hgrow line hline w (List.mem_cons_of_mem _ hw)) line hline

end

/-- Wrapping puts in spaces only, in place of tabs. -/
theorem mem_expandTabs_of_mem_wrap {limit : Nat} {s line : Text}
    (hline : line ∈ wrap measure limit s) (h : c ∈ line) : c ∈ expandTabs measure 0 s := by
  refine forall_mem_wrap (fun line => ∀ c ∈ line, c ∈ expandTabs measure 0 s)
    (fun w hw piece hpiece c hc =>
      mem_gapWords hw (List.mem_append_right _ (mem_of_mem_breakWord hpiece hc)))
    (fun line hline w hw _ c hc => ?_) line hline c h
  rw [List.append_assoc] at hc
  exact (List.mem_append.1 hc).elim (hline c) (mem_gapWords hw)

/-- Wrapping puts in nothing but spaces. -/
theorem mem_wrap {limit : Nat} {s line : Text} (hline : line ∈ wrap measure limit s)
    (h : c ∈ line) : c ∈ s ∨ c = ' ' :=
  mem_expandTabs (mem_expandTabs_of_mem_wrap hline h)

/-- No wrapped line is wider than the limit, unless a single visible character is. -/
theorem width_le_of_mem_wrap {limit bound : Nat} {s line : Text} (hlimit : max limit 1 ≤ bound)
    (hs : ∀ c ∈ expandTabs measure 0 s, isBlank c = false → measure c ≤ bound)
    (hline : line ∈ wrap measure limit s) : width measure line ≤ bound :=
  forall_mem_wrap (fun line => width measure line ≤ bound)
    (fun w hw _ hpiece => width_le_of_mem_breakWord hlimit (Nat.zero_le _)
      (fun c hc => hs c (mem_gapWords hw (List.mem_append_right _ hc))
        (((proper_gapWords _).1 w hw).visible c hc)) hpiece)
    (fun _ _ _ _ hfits => Nat.le_trans hfits hlimit) line hline

/-- The pieces of a word show what the word shows. -/
theorem flatMap_visible_breakWord (measure : Measure) (limit : Nat) (word : Text) :
    (breakWord measure limit [] word).dropLast.flatMap visible ++
        visible ((breakWord measure limit [] word).getLastD []) = visible word := by
  have hlast : (breakWord measure limit [] word).dropLast.flatten ++
      (breakWord measure limit [] word).getLastD [] = word := by
    rw [← List.flatten_concat, dropLast_append_getLastD_breakWord, flatten_breakWord,
      List.nil_append]
  rw [flatMap_visible, ← visible_append, hlast]

/-- The lines hold the words that were put on them, and no more that is visible. -/
theorem visible_fillLines {limit : Nat} {start : Text} {ws : List GapWord}
    (hgaps : ∀ w ∈ ws, ∀ c ∈ w.gap, isBlank c) :
    (fillLines measure limit start ws).flatMap visible =
      visible start ++ ws.flatMap fun w => visible w.word := by
  induction ws generalizing start with
  | nil => simp [fillLines]
  | cons next rest ih =>
    have hrest : ∀ w ∈ rest, ∀ c ∈ w.gap, isBlank c :=
      fun w hw => hgaps w (List.mem_cons_of_mem _ hw)
    rw [fillLines, List.flatMap_cons]
    split
    · -- the gap is blank, whether it stays or not
      rw [ih hrest, visible_append, visible_append,
        visible_of_isBlank (hgaps next List.mem_cons_self)]
      simp
    · rw [List.flatMap_append, List.flatMap_cons, ih hrest,
        ← flatMap_visible_breakWord measure limit next.word]
      simp

/-- The wrapped lines show what the line shows. -/
theorem visible_wrap (measure : Measure) (limit : Nat) (s : Text) :
    (wrap measure limit s).flatMap visible = visible s := by
  -- the words hold all that is visible
  have hwords : (gapWords (expandTabs measure 0 s)).flatMap (fun w => visible w.word) =
      visible s := by
    have hvisible (ws : List GapWord) :
        ws.flatMap (fun w => visible w.word) = visible (ws.flatMap GapWord.word) :=
      (List.filter_flatMap ..).symm
    have htwice (s : Text) : visible (visible s) = visible s := by simp [visible]
    rw [hvisible, flatMap_word_gapWords, htwice, visible_expandTabs]
  rw [← hwords, wrap]
  cases hsplit : gapWords (expandTabs measure 0 s) with
  | nil => rfl
  | cons first rest =>
    have hgaps : ∀ w ∈ rest, ∀ c ∈ w.gap, isBlank c := fun w hw c hc =>
      ((proper_gapWords _).1 w (hsplit ▸ List.mem_cons_of_mem first hw)).blank c hc
    dsimp only
    rw [List.flatMap_append, visible_fillLines hgaps, List.flatMap_cons, ← List.append_assoc,
      flatMap_visible_breakWord]

/-- A line that shows something is wrapped into one line at least. -/
theorem wrap_ne_nil {limit : Nat} {s : Text} (h : s.allBlank = false) :
    wrap measure limit s ≠ [] := by
  intro hnil
  have hvisible := visible_wrap measure limit s
  rw [hnil, List.flatMap_nil] at hvisible
  have hblank : s.allBlank := by
    rw [allBlank, List.all_eq_true]
    exact fun c hc => by simpa using List.filter_eq_nil_iff.1 hvisible.symm c hc
  simp [hblank] at h

end Text

end Gemtext
