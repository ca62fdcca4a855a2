import Gemtext.Proofs.Content.Marks
import Mathlib.Data.List.Forall2

/-!
# The lines of a content

Cutting a content at its newlines undoes joining (`splitOn_joinWith`) and goes through its text
(`splitOn_ofText`).  A content whose lines are all ended (`EndsLines`) may be followed by another
one without a line changing.  `Content.lines` leaves of every line between newlines the whole line,
or the line without a carriage return at its end (`exists_isPrefix_of_mem_lines`).
-/

namespace Gemtext

namespace Content

variable {c d : Content} {lines others : List Content}

/-- The content consists of the lines, each with a newline behind it. -/
def EndsLines (c : Content) (lines : List Content) : Prop :=
  splitOn (.char '\n') c = lines ++ [[]]

namespace EndsLines

theorem nil : EndsLines [] [] := rfl

/-- Ended lines stay what they are, whatever follows. -/
theorem splitOn_append (hc : EndsLines c lines) (d : Content) :
    splitOn (.char '\n') (c ++ d) = lines ++ splitOn (.char '\n') d := by
  obtain ⟨pieces, last, first, others, hsplit, hsplit', happend, -⟩ :=
    List.exists_splitOn_append (.char '\n') c d
  rw [← splitOn_eq_list] at hsplit hsplit' happend
  obtain ⟨rfl, hlast⟩ := List.append_inj' (hc.symm.trans hsplit) rfl
  obtain rfl : [] = last := List.singleton_inj.1 hlast
  rw [happend, List.nil_append, hsplit']

/-- Ended lines in front of ended lines are ended lines. -/
theorem append (hc : EndsLines c lines) (hd : EndsLines d others) :
    EndsLines (c ++ d) (lines ++ others) := by
  rw [EndsLines, hc.splitOn_append, hd, List.append_assoc]

/-- A newline ends the last line. -/
theorem append_newline (c : Content) :
    EndsLines (c ++ [.char '\n']) (splitOn (.char '\n') c) := by
  rw [EndsLines, splitOn_eq_list, splitOn_eq_list, List.splitOn_append_cons_self]
  rfl

end EndsLines

/-! ## Joined lines -/

/-- `joinWith` joins as `List.intercalate` does. -/
theorem joinWith_eq_list (sep : Text) (pieces : List Content) :
    joinWith sep pieces = List.intercalate (ofText sep) pieces := by
  induction pieces with
  | nil => rfl
  | cons piece rest ih =>
    cases rest with
    | nil => simp [joinWith]
    | cons next more => rw [joinWith, ih, List.intercalate_cons_cons]; simp

/-- Joining puts the separator behind each piece but the last. -/
theorem joinWith_cons (hne : lines ≠ []) (sep : Text) (line : Content) :
    joinWith sep (line :: lines) = line ++ ofText sep ++ joinWith sep lines := by
  cases lines with
  | nil => exact absurd rfl hne
  | cons next more => rfl

/-- Joined lines are cut apart again. -/
theorem splitOn_joinWith (hne : lines ≠ []) (h : ∀ line ∈ lines, .char '\n' ∉ line) :
    splitOn (.char '\n') (joinWith ['\n'] lines) = lines := by
  rw [joinWith_eq_list, splitOn_eq_list]
  exact List.splitOn_intercalate _ h hne

/-- Joining puts in the separator only. -/
theorem mem_joinWith {sep : Text} {atom : Atom} (h : atom ∈ joinWith sep lines) :
    atom ∈ ofText sep ∨ ∃ line ∈ lines, atom ∈ line := by
  induction lines with
  | nil => simp [joinWith] at h
  | cons line rest ih =>
    -- there is a separator behind every line but the last
    by_cases hrest : rest = []
    · subst hrest
      exact .inr ⟨line, List.mem_cons_self, h⟩
    · rw [joinWith_cons hrest, List.append_assoc] at h
      rcases List.mem_append.1 h with h | h
      · exact .inr ⟨line, List.mem_cons_self, h⟩
      · rcases List.mem_append.1 h with h | h
        · exact .inl h
        · refine (ih h).imp_right ?_
          rintro ⟨other, hother, h⟩
          exact ⟨other, List.mem_cons_of_mem _ hother, h⟩

/-- The lines of a text are the lines of the content that it makes. -/
theorem splitOn_ofText (s : Text) :
    splitOn (.char '\n') (ofText s) = (Text.splitOn '\n' s).map ofText := by
  induction s with
  | nil => rfl
  | cons x rest ih =>
    have hcons : ofText (x :: rest) = .char x :: ofText rest := rfl
    rw [hcons, splitOn, Text.splitOn, ih]
    by_cases hx : x = '\n'
    · simp [hx, ofText]
    · cases hrest : Text.splitOn '\n' rest <;> simp [hx, ofText]

/-! ## The lines that `Content.lines` reads -/

/-- Reading `\r\n` as `\n` shortens a line by its last character, or leaves it whole. -/
theorem forall₂_isPrefix_unifyNewlines (c : Content) :
    List.Forall₂ (· <+: ·) (splitOn (.char '\n') c.unifyNewlines) (splitOn (.char '\n') c) := by
  fun_induction unifyNewlines c with
  | case1 => exact List.forall₂_same.2 fun line _ => List.prefix_rfl
  | case2 rest ih =>
    rw [splitOn, splitOn, splitOn]
    simp only [if_true]
    exact .cons List.nil_prefix ih
  | case3 atom rest _ ih =>
    rw [splitOn, splitOn]
    by_cases hatom : atom = .char '\n'
    · simp only [hatom, if_true]
      exact .cons List.nil_prefix ih
    · simp only [hatom, if_false]
      -- the atom belongs to the first line of either
      generalize splitOn (.char '\n') (unifyNewlines rest) = unified at ih
      generalize splitOn (.char '\n') rest = pieces at ih
      cases ih with
      | nil => exact .cons List.prefix_rfl .nil
      | cons hfirst hrest => exact .cons ((List.prefix_cons_inj atom).2 hfirst) hrest

/-- An empty last line is left out, and the others stand between newlines. -/
theorem mem_splitOn_of_mem_lines {line : Content} (h : line ∈ c.lines) :
    line ∈ splitOn (.char '\n') c.unifyNewlines := by
  rw [lines] at h
  split at h
  · exact List.dropLast_subset _ h
  · exact h

/-- A line that is read is the beginning of one that stands between newlines. -/
theorem exists_isPrefix_of_mem_lines {line : Content} (h : line ∈ c.lines) :
    ∃ whole ∈ splitOn (.char '\n') c, line <+: whole := by
  obtain ⟨i, hi, rfl⟩ := List.getElem_of_mem (mem_splitOn_of_mem_lines h)
  have hall := List.forall₂_iff_get.1 (forall₂_isPrefix_unifyNewlines c)
  have hlength := hall.1 ▸ hi
  exact ⟨_, List.getElem_mem hlength, hall.2 i hi hlength⟩

/-- A line that is read stands in the content as it is. -/
theorem isInfix_of_mem_lines {line : Content} (h : line ∈ c.lines) : line <:+: c := by
  obtain ⟨whole, hwhole, hprefix⟩ := exists_isPrefix_of_mem_lines h
  rw [splitOn_eq_list] at hwhole
  exact hprefix.isInfix.trans (List.isInfix_of_mem_splitOn hwhole)

/-- What stands between newlines holds none. -/
theorem newline_not_mem_of_mem_splitOn {line : Content} (h : line ∈ splitOn (.char '\n') c) :
    .char '\n' ∉ line := by
  rw [splitOn_eq_list] at h
  exact fun hn => (List.mem_and_ne_of_mem_splitOn h hn).2 rfl

/-- A line that is read holds no newline. -/
theorem newline_not_mem_of_mem_lines {line : Content} (h : line ∈ c.lines) : .char '\n' ∉ line :=
  newline_not_mem_of_mem_splitOn (mem_splitOn_of_mem_lines h)

/-- A blank atom at the end is trimmed away. -/
theorem mem_of_mem_trim_concat {a atom : Atom} (ha : a.isBlank) (h : atom ∈ trim (c ++ [a])) :
    atom ∈ c := by
  rw [trim, trimEnd, trimStart, List.dropWhile_append] at h
  split at h
  · rw [List.dropWhile_cons_of_pos ha] at h
    exact absurd h List.not_mem_nil
  · rw [List.reverse_append, List.reverse_singleton, List.singleton_append,
      List.dropWhile_cons_of_pos ha, List.mem_reverse] at h
    exact (List.dropWhile_sublist _).mem (List.mem_reverse.1 ((List.dropWhile_sublist _).mem h))

end Content

end Gemtext
