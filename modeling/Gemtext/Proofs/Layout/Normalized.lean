import Gemtext.Proofs.Layout.Seams
import Gemtext.Proofs.Layout.Shown
import Mathlib.Data.List.Destutter

/-!
# The form of a document

However its content is mixed, a document does not begin with a line terminator, ends with a visible
character, and holds at most one empty line between two others (`normalized_layout`).  The last two
passes see to it: trimming looks after both ends, and taking newlines away leaves these as they are,
since it keeps the first two newlines of a row and every other character.

A text of this form has nothing left to trim and no newline too many (`Normalized.trimDocument_eq`,
`Normalized.limitNewlines_eq`).  Read line by line, what is taken away are the empty lines that
follow another empty line (`splitOn_limitNewlines`).
-/

namespace Gemtext

open Text

namespace Text

/-- Three newlines in a row. -/
def threeNewlines : Text :=
  ['\n', '\n', '\n']

/-- The text does not begin with a line terminator, ends visibly, and has at most two newlines in a
row.  The empty text is of this form. -/
structure Normalized (s : Text) : Prop where
  newlines : ¬threeNewlines <:+: s
  first : ∀ c rest, s = c :: rest → c ≠ '\n' ∧ c ≠ '\r'
  last : ∀ start c, s = start ++ [c] → isBlank c = false

end Text

namespace Layout

/-! ## Newlines in a row -/

/-- No more than two newlines are written in a row, with those that were just written. -/
theorem not_threeNewlines_limitNewlines {seen : Nat} (hseen : seen ≤ 2) (s : Text) :
    ¬threeNewlines <:+: List.replicate seen '\n' ++ limitNewlines seen s := by
  induction s generalizing seen with
  | nil =>
    intro h
    have hlength := h.length_le
    simp only [threeNewlines, limitNewlines, List.append_nil, List.length_replicate,
      List.length_cons, List.length_nil] at hlength
    omega
  | cons c rest ih =>
    rw [limitNewlines]
    split
    · rename_i hc
      subst hc
      split
      · -- the newline is written, and counts from then on
        rename_i hless
        rw [← List.singleton_append, ← List.append_assoc, ← List.replicate_succ']
        exact ih (by omega)
      · exact ih hseen
    · -- a row of newlines stands before the character or behind it
      rename_i hc
      intro h
      rcases List.isInfix_or_isInfix_of_append_cons (by simp [threeNewlines, hc]) h with h | h
      · have hlength := h.length_le
        simp only [threeNewlines, List.length_replicate, List.length_cons,
          List.length_nil] at hlength
        omega
      · exact ih (Nat.zero_le 2) h

/-- Nothing is taken away where at most two newlines stand in a row. -/
theorem limitNewlines_eq_self {seen : Nat} {s : Text}
    (h : ¬threeNewlines <:+: List.replicate seen '\n' ++ s) : limitNewlines seen s = s := by
  induction s generalizing seen with
  | nil => rfl
  | cons c rest ih =>
    rw [limitNewlines]
    split
    · rename_i hc
      subst hc
      rw [← List.singleton_append, ← List.append_assoc, ← List.replicate_succ'] at h
      -- a newline that goes would be the third in a row
      have hless : seen < 2 := by
        by_contra hmany
        obtain ⟨more, rfl⟩ := Nat.exists_eq_add_of_le (Nat.le_of_not_lt hmany)
        refine h ⟨[], List.replicate more '\n' ++ rest, ?_⟩
        rw [List.nil_append, ← List.append_assoc, threeNewlines,
          show ['\n', '\n', '\n'] = List.replicate 3 '\n' from rfl, List.replicate_append_replicate,
          show 3 + more = 2 + more + 1 by omega]
      rw [if_pos hless, ih h]
    · rw [ih fun hrest => h ?_]
      exact hrest.trans (List.suffix_append_of_suffix (List.suffix_cons c rest)).isInfix

/-- Nothing is taken away exactly if at most two newlines stand in a row. -/
theorem limitNewlines_eq_self_iff {s : Text} :
    limitNewlines 0 s = s ↔ ¬threeNewlines <:+: s := by
  refine ⟨fun h => ?_, fun h => limitNewlines_eq_self h⟩
  rw [← h]
  exact not_threeNewlines_limitNewlines (Nat.zero_le 2) s

/-! ## Empty lines in a row -/

/-- The lines are not both empty. -/
def Apart (line next : Text) : Prop :=
  line ≠ [] ∨ next ≠ []

instance : DecidableRel Apart := fun line next =>
  inferInstanceAs (Decidable (line ≠ [] ∨ next ≠ []))

/-- The first line stays. -/
theorem exists_destutter'_eq_cons (before : Text) (lines : List Text) :
    ∃ others, lines.destutter' Apart before = before :: others := by
  induction lines with
  | nil => exact ⟨[], rfl⟩
  | cons line rest ih =>
    by_cases h : Apart before line
    · exact ⟨_, List.destutter'_cons_pos _ h⟩
    · rwa [List.destutter'_cons_neg _ h]

/-- So does a last one that is not empty. -/
theorem destutter'_concat {line : Text} (hline : line ≠ []) (before : Text) (lines : List Text) :
    (lines ++ [line]).destutter' Apart before = lines.destutter' Apart before ++ [line] := by
  induction lines generalizing before with
  | nil =>
    rw [List.nil_append, List.destutter'_singleton, if_pos (.inr hline)]
    rfl
  | cons next rest ih =>
    rw [List.cons_append]
    by_cases h : Apart before next
    · rw [List.destutter'_cons_pos _ h, List.destutter'_cons_pos _ h, ih, List.cons_append]
    · rw [List.destutter'_cons_neg _ h, List.destutter'_cons_neg _ h, ih]

/-- Behind the line `before`, the empty lines that follow an empty line are taken away, if the last
line is none of them. -/
theorem splitOn_limitNewlines_behind (before : Text) {s : Text}
    (hlast : (splitOn '\n' s).getLast? ≠ some []) :
    before :: splitOn '\n' (limitNewlines (if before = [] then 2 else 1) s) =
      (splitOn '\n' s).destutter' Apart before := by
  induction s using lineInduction generalizing before with
  | last line hline =>
    rw [splitOn_of_not_mem hline] at hlast ⊢
    -- the last line is not empty, so it is apart from the one before it
    have hne : line ≠ [] := fun h => hlast (by rw [h]; rfl)
    rw [limitNewlines_of_not_mem hline, splitOn_of_not_mem hline, List.destutter'_singleton,
      if_pos (.inr hne)]
  | cons line rest hline ih =>
    have hrest : (splitOn '\n' rest).getLast? ≠ some [] := by
      rwa [splitOn_piece_cons hline, List.getLast?_cons_of_ne_nil (splitOn_ne_nil '\n' rest)]
        at hlast
    rw [splitOn_piece_cons hline]
    by_cases hne : line = []
    · subst hne
      by_cases hbefore : before = []
      · -- the newline is a third one in a row, and goes
        have hgone : limitNewlines 2 ('\n' :: rest) = limitNewlines 2 rest := by
          simp [limitNewlines]
        have hrow : ¬Apart before [] := by simp [Apart, hbefore]
        rw [if_pos hbefore, List.nil_append, hgone, List.destutter'_cons_neg _ hrow,
          ← ih before hrest, if_pos hbefore]
      · -- the newline is a second one, and stays
        have hkept : limitNewlines 1 ('\n' :: rest) = '\n' :: limitNewlines 2 rest := by
          simp [limitNewlines]
        rw [if_neg hbefore, List.nil_append, hkept, List.destutter'_cons_pos _ (.inl hbefore),
          ← ih [] hrest, if_pos rfl]
        rfl
    · -- behind a visible line the count begins anew
      have hkept (seen : Nat) :
          limitNewlines seen (line ++ '\n' :: rest) = line ++ '\n' :: limitNewlines 1 rest := by
        rw [limitNewlines_append hline hne]
        rfl
      rw [hkept, splitOn_piece_cons hline, List.destutter'_cons_pos _ (.inr hne), ← ih line hrest,
        if_neg hne]

/-- A text that neither begins nor ends with an empty line loses the empty lines that follow an
empty line. -/
theorem splitOn_limitNewlines {s : Text} (hfirst : (splitOn '\n' s).head? ≠ some [])
    (hlast : (splitOn '\n' s).getLast? ≠ some []) :
    splitOn '\n' (limitNewlines 0 s) = (splitOn '\n' s).destutter Apart := by
  cases s using lineInduction with
  | last line hline =>
    rw [limitNewlines_of_not_mem hline, splitOn_of_not_mem hline, List.destutter_singleton]
  | cons line rest hline _ =>
    rw [splitOn_piece_cons hline] at hfirst hlast ⊢
    rw [List.getLast?_cons_of_ne_nil (splitOn_ne_nil '\n' rest)] at hlast
    -- the first line is not empty, so the count begins behind it
    have hne : line ≠ [] := fun h => hfirst (by rw [h]; rfl)
    have hbehind := splitOn_limitNewlines_behind line hlast
    rw [if_neg hne] at hbehind
    rw [limitNewlines_append hline hne, List.destutter_cons', ← hbehind]
    exact splitOn_piece_cons hline _

/-- The first character is never taken away. -/
theorem limitNewlines_zero_cons (c : Char) (rest : Text) :
    ∃ more, limitNewlines 0 (c :: rest) = c :: more := by
  rw [limitNewlines]
  split
  · exact ⟨_, rfl⟩
  · exact ⟨_, rfl⟩

/-- Neither is a last character that is no newline. -/
theorem limitNewlines_concat {c : Char} (hc : c ≠ '\n') (seen : Nat) (s : Text) :
    ∃ start, limitNewlines seen (s ++ [c]) = start ++ [c] := by
  obtain ⟨seen', h⟩ := exists_limitNewlines_append seen s [c]
  refine ⟨limitNewlines seen s, ?_⟩
  have hlast : limitNewlines seen' [c] = [c] :=
    limitNewlines_of_not_mem (by simp [Ne.symm hc]) seen'
  rw [h, hlast]

/-- It does not matter which of the two comes first, trimming the end or taking newlines away. -/
theorem limitNewlines_trimEnd (seen : Nat) (s : Text) :
    limitNewlines seen s.trimEnd = (limitNewlines seen s).trimEnd := by
  obtain ⟨blanks, hs, hblanks⟩ := exists_trimEnd_append s
  obtain ⟨behind, hlimit⟩ := exists_limitNewlines_append seen s.trimEnd blanks
  have hmore : ∀ c ∈ limitNewlines behind blanks, isBlank c := fun c hc =>
    hblanks c ((limitNewlines_sublist behind blanks).mem hc)
  conv => rhs; rw [hs, hlimit, trimEnd_append_blank hmore]
  -- a blank text goes altogether, and any other one keeps its last character
  by_cases hnil : s.trimEnd = []
  · rw [hnil]
    rfl
  · obtain ⟨start, c, hend, hc⟩ := exists_trimEnd_eq_concat hnil
    obtain ⟨init, hinit⟩ := limitNewlines_concat (ne_of_visible hc rfl) seen start
    rw [hend, hinit, trimEnd_append_cons hc]
    rfl

/-! ## Trimming -/

theorem trimDocument_append_blank {blanks : Text} (hblanks : ∀ c ∈ blanks, isBlank c) (s : Text) :
    trimDocument (s ++ blanks) = trimDocument s := by
  rw [trimDocument, trimEnd_append_blank hblanks, ← trimDocument]

/-- A newline in front is taken away. -/
theorem trimDocument_newline_cons (s : Text) : trimDocument ('\n' :: s) = trimDocument s := by
  obtain ⟨blanks, hs, hblanks⟩ := exists_trimEnd_append s
  by_cases hnil : s.trimEnd = []
  · have hall : ∀ c ∈ s, isBlank c := by rwa [hs, hnil, List.nil_append]
    have hboth : ∀ c ∈ '\n' :: s, isBlank c := List.forall_mem_cons.2 ⟨by decide, hall⟩
    exact (trimDocument_append_blank hboth []).trans (trimDocument_append_blank hall []).symm
  · obtain ⟨start, last, hend, hvisible⟩ := exists_trimEnd_eq_concat hnil
    have hline : trimEnd ('\n' :: s) = '\n' :: s.trimEnd := by
      conv => lhs; rw [hs, ← List.cons_append, trimEnd_append_blank hblanks, hend]
      rw [hend, ← List.cons_append, trimEnd_append_cons hvisible]
      rfl
    rw [trimDocument, hline]
    exact List.dropWhile_cons_of_pos rfl

/-- What is trimmed of a text that begins visibly stands at its end. -/
theorem trimDocument_visible_cons {x : Char} (hx : isBlank x = false) (rest : Text) :
    trimDocument (x :: rest) = trimEnd (x :: rest) := by
  have hend : trimEnd (x :: rest) = x :: trimEnd rest := trimEnd_append_cons hx [] rest
  rw [trimDocument, hend]
  refine List.dropWhile_cons_of_neg fun hterminator => ?_
  obtain hreturn | hnewline : x = '\r' ∨ x = '\n' := by simpa using hterminator
  · exact ne_of_visible hx rfl hreturn
  · exact ne_of_visible hx rfl hnewline

/-- There is nothing to trim if the text begins and ends visibly. -/
theorem trimDocument_of_framed {s : Text} (h : Framed s) : trimDocument s = s := by
  obtain ⟨c, rest, rfl, hc⟩ := h.first
  obtain ⟨start, last, hlast, hvisible⟩ := h.last
  rw [trimDocument_visible_cons hc, hlast, trimEnd_append_cons hvisible]
  rfl

/-- A trimmed document does not begin with a line terminator. -/
theorem ne_of_trimDocument_eq_cons {s rest : Text} {c : Char} (h : trimDocument s = c :: rest) :
    c ≠ '\n' ∧ c ≠ '\r' := by
  rw [trimDocument] at h
  have hstop := List.not_of_dropWhile_eq_cons h
  simp only [Bool.or_eq_false_iff, beq_eq_false_iff_ne] at hstop
  exact hstop.symm

/-- A trimmed document ends visibly. -/
theorem isBlank_of_trimDocument_eq_concat {s start : Text} {c : Char}
    (h : trimDocument s = start ++ [c]) : isBlank c = false := by
  have hsuffix : start ++ [c] <:+ s.trimEnd := h ▸ List.dropWhile_suffix _
  have hne : s.trimEnd ≠ [] := by
    rintro heq
    rw [heq, List.suffix_nil] at hsuffix
    simp at hsuffix
  obtain ⟨init, last, hlast, hvisible⟩ := exists_trimEnd_eq_concat hne
  obtain ⟨dropped, hdropped⟩ := hsuffix
  rw [hlast, ← List.append_assoc] at hdropped
  obtain rfl : c = last := by simpa using (List.append_inj' hdropped rfl).2
  exact hvisible

end Layout

/-! ## The form -/

namespace Text

open Layout

variable {s : Text}

/-- Behind trimming, taking newlines away makes the form. -/
theorem normalized_limitNewlines (s : Text) : Normalized (limitNewlines 0 (trimDocument s)) where
  newlines := not_threeNewlines_limitNewlines (Nat.zero_le 2) (trimDocument s)
  first c rest h := by
    -- the first character stays
    cases htrim : trimDocument s with
    | nil => rw [htrim] at h; cases h
    | cons d others =>
      obtain ⟨more, hmore⟩ := limitNewlines_zero_cons d others
      rw [htrim, hmore] at h
      obtain ⟨rfl, -⟩ := List.cons.inj h
      exact ne_of_trimDocument_eq_cons htrim
  last start c h := by
    -- the last character is visible, so it stays
    rcases List.eq_nil_or_concat (trimDocument s) with htrim | ⟨before, d, htrim⟩
    · rw [htrim, limitNewlines] at h
      simp at h
    · rw [List.concat_eq_append] at htrim
      have hd := isBlank_of_trimDocument_eq_concat htrim
      obtain ⟨init, hinit⟩ := limitNewlines_concat (ne_of_visible hd rfl) 0 before
      rw [htrim, hinit] at h
      obtain rfl : d = c := by simpa using (List.append_inj' h rfl).2
      exact hd

/-- There is nothing left to trim. -/
theorem Normalized.trimDocument_eq (h : Normalized s) : trimDocument s = s := by
  have hend : s.trimEnd = s := by
    rcases List.eq_nil_or_concat s with rfl | ⟨start, c, rfl⟩
    · rfl
    · have hc := h.last start c List.concat_eq_append
      rw [List.concat_eq_append, trimEnd_append_cons hc]
      rfl
  rw [trimDocument, hend]
  cases s with
  | nil => rfl
  | cons c rest =>
    obtain ⟨hnewline, hreturn⟩ := h.first c rest rfl
    exact List.dropWhile_cons_of_neg (by simp [hnewline, hreturn])

/-- There is no newline too many. -/
theorem Normalized.limitNewlines_eq (h : Normalized s) : limitNewlines 0 s = s :=
  limitNewlines_eq_self h.newlines

end Text

open Content in
/-- A document does not begin with a newline or a carriage return, ends with a visible character,
and has no three newlines in a row. -/
theorem normalized_layout (fragments trailing : List Fragment) :
    (layout (ofFragments fragments) (ofFragments trailing)).Normalized :=
  normalized_limitNewlines _

end Gemtext
