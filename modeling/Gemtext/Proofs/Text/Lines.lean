import Gemtext.Text.Basic
import Gemtext.Proofs.List
import Mathlib.Data.List.DropRight

/-!
# The lines of a text

`Text.splitOn` and `Text.joinWith` are `List.splitOn` and `List.intercalate` of the standard
library (`splitOn_eq_list`, `joinWith_eq_list`), so the facts about cutting a text at a character
come from there.  Everything about lines then follows a text line by line: a text is its last
line, or it is a line, a newline and a text (`lineInduction`).

The pieces between newlines that begin and end visibly (`Framed`) survive when blank characters
are taken off the ends of the text, and they are lines for `Text.lines` too, which also reads
`\r\n` as the end of a line (`sublist_lines`).
-/

namespace Gemtext

namespace Text

variable {sep : Char}

/-! ## Cutting and joining -/

/-- `splitOn` cuts as `List.splitOn` does. -/
theorem splitOn_eq_list (sep : Char) (s : Text) : splitOn sep s = List.splitOn sep s := by
  induction s with
  | nil => simp [splitOn]
  | cons c rest ih =>
    rw [splitOn, List.splitOn_cons_eq_if_modifyHead, ih]
    obtain ⟨piece, pieces, hp⟩ := List.exists_cons_of_ne_nil (List.splitOn_ne_nil sep rest)
    by_cases hc : c = sep <;> simp [hc, hp]

/-- `joinWith` joins as `List.intercalate` does. -/
theorem joinWith_eq_list (sep : Text) (pieces : List Text) :
    joinWith sep pieces = List.intercalate sep pieces := by
  induction pieces with
  | nil => rfl
  | cons piece rest ih =>
    cases rest with
    | nil => simp [joinWith]
    | cons next more => rw [joinWith, ih, List.intercalate_cons_cons]; simp

/-- A text has at least one piece. -/
theorem splitOn_ne_nil (sep : Char) (s : Text) : splitOn sep s ≠ [] := by
  rw [splitOn_eq_list]
  exact List.splitOn_ne_nil sep s

/-- A text without the separator is its own only piece. -/
theorem splitOn_of_not_mem {s : Text} (h : sep ∉ s) : splitOn sep s = [s] := by
  rw [splitOn_eq_list]
  exact List.splitOn_eq_singleton h

/-- A separator puts the pieces before it apart from those behind it. -/
theorem splitOn_append_cons (a b : Text) :
    splitOn sep (a ++ sep :: b) = splitOn sep a ++ splitOn sep b := by
  simp only [splitOn_eq_list]
  exact List.splitOn_append_cons_self a b

/-- The first piece ends at the first separator. -/
theorem splitOn_piece_cons {a : Text} (h : sep ∉ a) (b : Text) :
    splitOn sep (a ++ sep :: b) = a :: splitOn sep b := by
  rw [splitOn_append_cons, splitOn_of_not_mem h]
  rfl

/-- Without a separator, what stands in front belongs to the first piece. -/
theorem splitOn_append_of_not_mem {a b first : Text} {others : List Text} (h : sep ∉ a)
    (hb : splitOn sep b = first :: others) : splitOn sep (a ++ b) = (a ++ first) :: others := by
  induction a with
  | nil => exact hb
  | cons c rest ih =>
    simp only [List.mem_cons, not_or] at h
    rw [List.cons_append, splitOn, if_neg (Ne.symm h.1), ih h.2]
    rfl

/-- A piece holds characters of the text, but not the separator. -/
theorem mem_and_ne_of_mem_splitOn {s piece : Text} {c : Char} (hp : piece ∈ splitOn sep s)
    (hc : c ∈ piece) : c ∈ s ∧ c ≠ sep := by
  rw [splitOn_eq_list] at hp
  exact List.mem_and_ne_of_mem_splitOn hp hc

/-- The pieces joined by the separator are the text. -/
theorem joinWith_splitOn (sep : Char) (s : Text) : joinWith [sep] (splitOn sep s) = s := by
  rw [joinWith_eq_list, splitOn_eq_list]
  exact List.intercalate_splitOn sep

/-- Joined pieces are cut apart again, if there is one and none holds the separator. -/
theorem splitOn_joinWith {pieces : List Text} (hne : pieces ≠ [])
    (h : ∀ piece ∈ pieces, sep ∉ piece) : splitOn sep (joinWith [sep] pieces) = pieces := by
  rw [joinWith_eq_list, splitOn_eq_list]
  exact List.splitOn_intercalate sep h hne

/-- Joining puts the separator behind each piece but the last. -/
theorem joinWith_cons {pieces : List Text} (hne : pieces ≠ []) (sep piece : Text) :
    joinWith sep (piece :: pieces) = piece ++ sep ++ joinWith sep pieces := by
  cases pieces with
  | nil => exact absurd rfl hne
  | cons next more => rfl

/-- The first two pieces may be joined first. -/
theorem joinWith_cons_cons (sep piece next : Text) (pieces : List Text) :
    joinWith sep (piece :: next :: pieces) = joinWith sep ((piece ++ sep ++ next) :: pieces) := by
  cases pieces with
  | nil => rfl
  | cons other more => simp only [joinWith, List.append_assoc]

/-- Pieces are joined in two parts, with the separator between them. -/
theorem joinWith_append {pieces others : List Text} (hp : pieces ≠ []) (ho : others ≠ [])
    (sep : Text) :
    joinWith sep (pieces ++ others) = joinWith sep pieces ++ sep ++ joinWith sep others := by
  induction pieces with
  | nil => exact absurd rfl hp
  | cons piece rest ih =>
    by_cases hrest : rest = []
    · subst hrest
      rw [List.singleton_append, joinWith_cons ho]
      rfl
    · rw [List.cons_append, joinWith_cons (List.append_ne_nil_of_left_ne_nil hrest others),
        ih hrest, joinWith_cons hrest]
      simp only [List.append_assoc]

/-- What stands at the end of the last piece stands at the end of the text. -/
theorem joinWith_concat_append (sep : Text) (pieces : List Text) (piece more : Text) :
    joinWith sep (pieces ++ [piece ++ more]) = joinWith sep (pieces ++ [piece]) ++ more := by
  by_cases hp : pieces = []
  · subst hp
    rfl
  · rw [joinWith_append hp (List.cons_ne_nil _ _), joinWith_append hp (List.cons_ne_nil _ _),
      List.append_assoc _ _ more]
    rfl

/-- Joining puts in the characters of the separator only. -/
theorem mem_joinWith {sep : Text} {pieces : List Text} {c : Char} (h : c ∈ joinWith sep pieces) :
    c ∈ sep ∨ ∃ piece ∈ pieces, c ∈ piece := by
  induction pieces with
  | nil => simp [joinWith] at h
  | cons piece rest ih =>
    -- there is a separator behind every piece but the last
    by_cases hrest : rest = []
    · subst hrest
      exact .inr ⟨piece, List.mem_cons_self, h⟩
    · rw [joinWith_cons hrest, List.append_assoc] at h
      rcases List.mem_append.1 h with h | h
      · exact .inr ⟨piece, List.mem_cons_self, h⟩
      · rcases List.mem_append.1 h with h | h
        · exact .inl h
        · refine (ih h).imp_right ?_
          rintro ⟨other, hother, h⟩
          exact ⟨other, List.mem_cons_of_mem _ hother, h⟩

/-- What is no separator stands in a piece. -/
theorem exists_mem_splitOn {s : Text} {c : Char} (h : c ∈ s) (hc : c ≠ sep) :
    ∃ piece ∈ splitOn sep s, c ∈ piece := by
  rw [← joinWith_splitOn sep s] at h
  exact (mem_joinWith h).resolve_left fun hmem => hc (List.mem_singleton.1 hmem)

/-- Joined pieces hold each character as often as the pieces, but for those of the separator. -/
theorem count_joinWith {sep : Text} {c : Char} (hsep : c ∉ sep) (pieces : List Text) :
    (joinWith sep pieces).count c = pieces.flatten.count c := by
  induction pieces with
  | nil => rfl
  | cons piece rest ih =>
    cases rest with
    | nil => simp [joinWith]
    | cons next more =>
      rw [joinWith_cons (List.cons_ne_nil next more), List.count_append, List.count_append, ih,
        List.count_eq_zero.2 hsep, Nat.add_zero]
      exact List.count_append.symm

/-! ## Induction on lines -/

/-- Every text is its last line, or a line, a newline and a text. -/
@[elab_as_elim]
theorem lineInduction {motive : Text → Prop}
    (last : ∀ line, '\n' ∉ line → motive line)
    (cons : ∀ line rest, '\n' ∉ line → motive rest → motive (line ++ '\n' :: rest))
    (s : Text) : motive s := by
  by_cases h : '\n' ∈ s
  · obtain ⟨line, rest, hs, hline⟩ := List.eq_append_cons_of_mem h
    have hshort : rest.length < s.length := by rw [hs]; simp; omega
    rw [hs]
    exact cons line rest hline (lineInduction last cons rest)
  · exact last s h
termination_by s.length

/-! ## Trimming -/

/-- A trimmed text is the beginning of the text. -/
theorem trimEnd_isPrefix (s : Text) : s.trimEnd <+: s := by
  obtain ⟨dropped, hs, -⟩ := List.exists_dropWhile_reverse_append isBlank s
  exact ⟨dropped, hs.symm⟩

/-- What is trimmed off are blank characters. -/
theorem exists_trimEnd_append (s : Text) :
    ∃ blanks, s = s.trimEnd ++ blanks ∧ ∀ c ∈ blanks, isBlank c :=
  List.exists_dropWhile_reverse_append isBlank s

/-- A trimmed text does not end with a blank character. -/
theorem exists_trimEnd_eq_concat {s : Text} (h : s.trimEnd ≠ []) :
    ∃ start c, s.trimEnd = start ++ [c] ∧ isBlank c = false := by
  cases hrev : s.reverse.dropWhile isBlank with
  | nil => exact absurd (by simp [trimEnd, dropEndWhile, hrev]) h
  | cons c rest =>
    refine ⟨rest.reverse, c, ?_, List.not_of_dropWhile_eq_cons hrev⟩
    rw [trimEnd, dropEndWhile, hrev, List.reverse_cons]

/-- Trimming stops at the last visible character. -/
theorem trimEnd_append_cons {c : Char} (hc : isBlank c = false) (a b : Text) :
    trimEnd (a ++ c :: b) = a ++ c :: trimEnd b := by
  rw [trimEnd, trimEnd, dropEndWhile, dropEndWhile, List.reverse_append, List.reverse_cons,
    List.append_assoc, List.dropWhile_append]
  split
  · rename_i hblank
    rw [List.isEmpty_iff.1 hblank, List.singleton_append,
      List.dropWhile_cons_of_neg (by simp [hc])]
    simp
  · simp

/-- What is blank at the end is trimmed away. -/
theorem trimEnd_append_blank {blanks : Text} (h : ∀ c ∈ blanks, isBlank c) (line : Text) :
    trimEnd (line ++ blanks) = trimEnd line := by
  rw [trimEnd, trimEnd, dropEndWhile, dropEndWhile, List.reverse_append,
    List.dropWhile_append_of_pos fun c hc => h c (List.mem_reverse.1 hc)]

theorem trimStart_eq_nil_iff {s : Text} : s.trimStart = [] ↔ s.allBlank := by
  rw [trimStart, List.dropWhile_eq_nil_iff, allBlank, List.all_eq_true]

/-- A blank line at the start is trimmed off, and nothing behind a line that is not blank. -/
theorem trimStart_append_newline (line rest : Text) :
    trimStart (line ++ '\n' :: rest) =
      if line.allBlank then rest.trimStart else line.trimStart ++ '\n' :: rest := by
  rw [trimStart, List.dropWhile_append, List.dropWhile_cons_of_pos (by decide), ← trimStart,
    ← trimStart]
  simp only [List.isEmpty_iff, trimStart_eq_nil_iff]

/-- What is left of a text stands in it as it is. -/
theorem trim_isInfix (s : Text) : s.trim <:+: s :=
  (trimEnd_isPrefix s.trimStart).isInfix.trans (List.dropWhile_suffix _).isInfix

/-- Blank characters behind a text make no difference to what is left of it. -/
theorem trim_append_blank {blanks : Text} (h : ∀ c ∈ blanks, isBlank c) (s : Text) :
    trim (s ++ blanks) = trim s := by
  have hnone : blanks.dropWhile isBlank = [] := List.dropWhile_eq_nil_iff.2 h
  rw [trim, trimStart, List.dropWhile_append]
  split
  · rename_i hblank
    rw [hnone, trim, trimStart, List.isEmpty_iff.1 hblank]
  · rw [trimEnd_append_blank h]
    rfl

theorem trim_blank_cons {c : Char} (hc : isBlank c) (s : Text) : trim (c :: s) = trim s := by
  rw [trim, trimStart, List.dropWhile_cons_of_pos hc]
  rfl

/-- Nor do blank characters before it. -/
theorem trim_blank_append {blanks : Text} (h : ∀ c ∈ blanks, isBlank c) (s : Text) :
    trim (blanks ++ s) = trim s := by
  rw [trim, trimStart, List.dropWhile_append_of_pos h]
  rfl

theorem trim_trimEnd (s : Text) : trim s.trimEnd = trim s := by
  obtain ⟨blanks, hs, hblanks⟩ := exists_trimEnd_append s
  conv => rhs; rw [hs, trim_append_blank hblanks]

/-- There is nothing left to trim in a trimmed text. -/
theorem trim_trim (s : Text) : s.trim.trim = s.trim := by
  have hend (t : Text) : t.trimEnd.trimEnd = t.trimEnd := by
    simp only [trimEnd, dropEndWhile, List.reverse_reverse, List.dropWhile_idempotent]
  have hstart : s.trim.trimStart = s.trim := by
    -- what is left begins with a visible character, if there is any
    cases h : s.trimStart with
    | nil =>
      rw [trim, h]
      rfl
    | cons c rest =>
      have hc : isBlank c = false := List.not_of_dropWhile_eq_cons h
      rw [trim, h, ← List.nil_append (c :: rest), trimEnd_append_cons hc]
      simp [trimStart, hc]
  rw [trim, hstart]
  exact hend s.trimStart

/-- A visible character is none of the blank ones. -/
theorem ne_of_visible {x c : Char} (hx : isBlank x = false) (hc : isBlank c) : x ≠ c := by
  rintro rfl
  simp [hx] at hc

/-- The text begins and ends with a visible character. -/
structure Framed (s : Text) : Prop where
  first : ∃ c rest, s = c :: rest ∧ isBlank c = false
  last : ∃ start c, s = start ++ [c] ∧ isBlank c = false

namespace Framed

variable {s : Text} {c : Char}

theorem ne_nil (h : Framed s) : s ≠ [] := by
  obtain ⟨c, rest, rfl, -⟩ := h.first
  exact List.cons_ne_nil c rest

/-- A framed text does not begin with a blank character. -/
theorem ne_blank_cons (h : Framed s) (hc : isBlank c) (rest : Text) : s ≠ c :: rest := by
  obtain ⟨d, tail, rfl, hd⟩ := h.first
  intro heq
  obtain ⟨rfl, -⟩ := List.cons.inj heq
  simp [hd] at hc

/-- A framed text does not end with a blank character. -/
theorem ne_concat_blank (h : Framed s) (hc : isBlank c) (start : Text) : s ≠ start ++ [c] := by
  obtain ⟨init, d, rfl, hd⟩ := h.last
  intro heq
  obtain ⟨-, heq⟩ := List.append_inj' heq rfl
  obtain ⟨rfl, -⟩ := List.cons.inj heq
  simp [hd] at hc

theorem trimStart_eq (h : Framed s) : s.trimStart = s := by
  obtain ⟨c, rest, rfl, hc⟩ := h.first
  simp [trimStart, hc]

theorem trimEnd_eq (h : Framed s) : s.trimEnd = s := by
  obtain ⟨start, c, rfl, hc⟩ := h.last
  exact trimEnd_append_cons hc start []

theorem trim_eq (h : Framed s) : s.trim = s := by
  rw [trim, h.trimStart_eq, h.trimEnd_eq]

/-- A text that is visible throughout is so at its ends. -/
theorem of_visible (hne : s ≠ []) (h : ∀ c ∈ s, isBlank c = false) : Framed s := by
  obtain ⟨c, rest, hfirst⟩ := List.exists_cons_of_ne_nil hne
  have hlast := List.dropLast_concat_getLast hne
  exact ⟨⟨c, rest, hfirst, h c (by simp [hfirst])⟩,
    ⟨s.dropLast, s.getLast hne, hlast.symm, h _ (List.getLast_mem hne)⟩⟩

/-- What stands in between does not matter. -/
theorem append {t : Text} (hs : Framed s) (ht : Framed t) (between : Text) :
    Framed (s ++ between ++ t) := by
  obtain ⟨c, rest, rfl, hc⟩ := hs.first
  obtain ⟨start, d, rfl, hd⟩ := ht.last
  exact ⟨⟨c, rest ++ between ++ (start ++ [d]), by simp, hc⟩,
    ⟨c :: rest ++ between ++ start, d, by simp, hd⟩⟩

/-- Joined pieces begin with the first one and end with the last one. -/
theorem joinWith {pieces : List Text} (hne : pieces ≠ []) (h : ∀ piece ∈ pieces, Framed piece)
    (sep : Text) : Framed (joinWith sep pieces) := by
  induction pieces with
  | nil => exact absurd rfl hne
  | cons piece rest ih =>
    have hpiece := h piece List.mem_cons_self
    by_cases hrest : rest = []
    · rw [hrest]
      exact hpiece
    · rw [joinWith_cons hrest]
      exact hpiece.append (ih hrest fun p hp => h p (List.mem_cons_of_mem _ hp)) sep

end Framed

/-- A text is framed by its beginning and its end. -/
theorem framed_append {s t : Text} (hs : ∃ c rest, s = c :: rest ∧ isBlank c = false)
    (ht : ∃ start c, t = start ++ [c] ∧ isBlank c = false) : Framed (s ++ t) := by
  obtain ⟨c, rest, rfl, hc⟩ := hs
  obtain ⟨start, d, rfl, hd⟩ := ht
  exact ⟨⟨c, rest ++ (start ++ [d]), rfl, hc⟩,
    ⟨c :: rest ++ start, d, (List.append_assoc ..).symm, hd⟩⟩

/-- What trimming leaves begins and ends visibly, if it leaves anything. -/
theorem framed_trim {s : Text} (h : s.trim ≠ []) : Framed s.trim where
  first := by
    cases hstart : s.trimStart with
    | nil => exact absurd (by rw [trim, hstart]; rfl) h
    | cons c rest =>
      have hc : isBlank c = false := List.not_of_dropWhile_eq_cons hstart
      exact ⟨c, trimEnd rest, by rw [trim, hstart]; exact trimEnd_append_cons hc [] rest, hc⟩
  last := exists_trimEnd_eq_concat h

/-! ## Lines that trimming keeps

Blank characters at an end of the text belong to no line that begins and ends visibly. -/

section Kept

variable {kept : List Text} {c : Char}

/-- A last blank character is part of no kept line. -/
theorem sublist_splitOn_of_concat_blank (hk : ∀ line ∈ kept, Framed line) (hc : isBlank c)
    {s : Text} (h : kept.Sublist (splitOn '\n' (s ++ [c]))) : kept.Sublist (splitOn '\n' s) := by
  induction s using lineInduction generalizing kept with
  | last line hline =>
    -- the blank character ends the last line, or stands at its end
    by_cases hn : c = '\n'
    · subst hn
      rw [splitOn_piece_cons hline, ← List.singleton_append] at h
      rw [splitOn_of_not_mem hline]
      refine h.of_sublist_append_left fun l hl hmem => ?_
      exact (hk l hl).ne_nil (List.mem_singleton.1 hmem)
    · rw [splitOn_of_not_mem (by simp [hline, Ne.symm hn])] at h
      -- the line is kept or not, and it is the same one on both sides
      cases h with
      | cons _ h => rw [List.sublist_nil.1 h]; exact List.nil_sublist _
      | cons_cons _ h => exact absurd rfl ((hk _ List.mem_cons_self).ne_concat_blank hc line)
  | cons line rest hline ih =>
    rw [List.append_assoc, List.cons_append, splitOn_piece_cons hline] at h
    rw [splitOn_piece_cons hline]
    cases h with
    | cons _ h => exact (ih hk h).cons line
    | cons_cons _ h => exact (ih (fun l hl => hk l (List.mem_cons_of_mem _ hl)) h).cons_cons line

/-- Blank characters at the end are part of no kept line. -/
theorem sublist_splitOn_of_append_blank (hk : ∀ line ∈ kept, Framed line) {s blanks : Text}
    (hb : ∀ c ∈ blanks, isBlank c) (h : kept.Sublist (splitOn '\n' (s ++ blanks))) :
    kept.Sublist (splitOn '\n' s) := by
  induction blanks generalizing s with
  | nil => rwa [List.append_nil] at h
  | cons c rest ih =>
    rw [← List.singleton_append, ← List.append_assoc] at h
    have hs := ih (fun d hd => hb d (List.mem_cons_of_mem _ hd)) h
    exact sublist_splitOn_of_concat_blank hk (hb c List.mem_cons_self) hs

/-- A first blank character is part of no kept line. -/
theorem sublist_splitOn_of_blank_cons (hk : ∀ line ∈ kept, Framed line) (hc : isBlank c)
    {s : Text} (h : kept.Sublist (splitOn '\n' (c :: s))) : kept.Sublist (splitOn '\n' s) := by
  -- the blank character ends an empty line, or stands at the beginning of the first
  by_cases hn : c = '\n'
  · subst hn
    rw [← List.nil_append ('\n' :: s), splitOn_piece_cons List.not_mem_nil,
      ← List.singleton_append] at h
    refine h.of_sublist_append_right fun l hl hmem => ?_
    exact (hk l hl).ne_nil (List.mem_singleton.1 hmem)
  · cases s using lineInduction with
    | last line hline =>
      rw [splitOn_of_not_mem (by simp [hline, Ne.symm hn])] at h
      cases h with
      | cons _ h => rw [List.sublist_nil.1 h]; exact List.nil_sublist _
      | cons_cons _ h => exact absurd rfl ((hk _ List.mem_cons_self).ne_blank_cons hc _)
    | cons line rest hline _ =>
      rw [← List.cons_append, splitOn_piece_cons (by simp [hline, Ne.symm hn])] at h
      rw [splitOn_piece_cons hline]
      cases h with
      | cons _ h => exact h.cons line
      | cons_cons _ h => exact absurd rfl ((hk _ List.mem_cons_self).ne_blank_cons hc line)

/-- Blank characters at the beginning are part of no kept line. -/
theorem sublist_splitOn_of_blank_append (hk : ∀ line ∈ kept, Framed line) {blanks s : Text}
    (hb : ∀ c ∈ blanks, isBlank c) (h : kept.Sublist (splitOn '\n' (blanks ++ s))) :
    kept.Sublist (splitOn '\n' s) := by
  induction blanks with
  | nil => exact h
  | cons c rest ih =>
    refine ih (fun d hd => hb d (List.mem_cons_of_mem _ hd)) ?_
    exact sublist_splitOn_of_blank_cons hk (hb c List.mem_cons_self) h

end Kept

/-! ## The lines that `Text.lines` reads -/

/-- The end of a first line is read as a newline, together with a carriage return before it. -/
theorem unifyNewlines_line {line : Text} (h : '\n' ∉ line) (rest : Text) :
    ∃ body, (line = body ∨ line = body ++ ['\r']) ∧
      unifyNewlines (line ++ '\n' :: rest) = body ++ '\n' :: unifyNewlines rest := by
  induction line with
  | nil => exact ⟨[], .inl rfl, by simp [unifyNewlines]⟩
  | cons c tail ih =>
    simp only [List.mem_cons, not_or] at h
    obtain ⟨body, hbody, heq⟩ := ih h.2
    -- only a carriage return at the end of the line is dropped
    by_cases hret : c = '\r' ∧ tail = []
    · obtain ⟨rfl, rfl⟩ := hret
      exact ⟨[], .inr rfl, by simp [unifyNewlines]⟩
    · refine ⟨c :: body, ?_, ?_⟩
      · rcases hbody with rfl | rfl
        · exact .inl rfl
        · exact .inr rfl
      · rw [List.cons_append, unifyNewlines, heq]
        · rfl
        · -- a carriage return in front of another character of the line
          rintro more rfl hmore
          cases tail with
          | nil => exact hret ⟨rfl, rfl⟩
          | cons d more =>
            simp only [List.cons_append, List.cons.injEq] at hmore
            exact h.2 (by simp [hmore.1])

/-- What is no carriage return begins no line break of two characters. -/
theorem unifyNewlines_cons {c : Char} (hc : c ≠ '\r') (s : Text) :
    unifyNewlines (c :: s) = c :: unifyNewlines s := by
  rw [unifyNewlines]
  rintro more rfl
  exact absurd rfl hc

/-- What is no newline ends no line break. -/
theorem unifyNewlines_concat {c : Char} (hc : c ≠ '\n') (s : Text) :
    unifyNewlines (s ++ [c]) = unifyNewlines s ++ [c] := by
  fun_induction unifyNewlines s with
  | case1 => simp [unifyNewlines]
  | case2 rest ih => simp [unifyNewlines, ih]
  | case3 d rest hd ih =>
    rw [List.cons_append, unifyNewlines, ih]
    · rfl
    · -- the newline behind a carriage return would be the last character
      rintro more rfl hmore
      cases rest with
      | nil => exact hc (List.cons.inj hmore).1
      | cons e tail =>
        obtain ⟨rfl, -⟩ := List.cons.inj hmore
        exact hd tail rfl rfl

/-- No line ends at either end of a text that begins and ends visibly. -/
theorem Framed.unifyNewlines {s : Text} (h : Framed s) : Framed (unifyNewlines s) where
  first := by
    obtain ⟨c, rest, rfl, hc⟩ := h.first
    exact ⟨c, Text.unifyNewlines rest, unifyNewlines_cons (ne_of_visible hc rfl) rest, hc⟩
  last := by
    obtain ⟨start, c, rfl, hc⟩ := h.last
    exact ⟨Text.unifyNewlines start, c, unifyNewlines_concat (ne_of_visible hc rfl) start, hc⟩

/-- A text without a newline is read as it is. -/
theorem unifyNewlines_of_not_mem {s : Text} (h : '\n' ∉ s ∨ '\r' ∉ s) : unifyNewlines s = s := by
  fun_induction unifyNewlines s with
  | case1 => rfl
  | case2 rest ih => simp at h
  | case3 c rest hc ih =>
    simp only [List.mem_cons, not_or] at h
    rw [ih (h.imp And.right And.right)]

/-- Without a carriage return at the end of a line, a text is read as it is. -/
theorem unifyNewlines_of_ended {s : Text}
    (h : ∀ line ∈ splitOn '\n' s, ∀ start, line ≠ start ++ ['\r']) : s.unifyNewlines = s := by
  induction s using lineInduction with
  | last line hline => exact unifyNewlines_of_not_mem (.inl hline)
  | cons line rest hline ih =>
    rw [splitOn_piece_cons hline] at h
    obtain ⟨hfirst, hrest⟩ := List.forall_mem_cons.1 h
    obtain ⟨body, rfl | hreturn, heq⟩ := unifyNewlines_line hline rest
    · rw [heq, ih hrest]
    · exact absurd hreturn (hfirst body)

/-- Lines that begin and end visibly are read back when they are joined. -/
theorem lines_joinWith {pieces : List Text} (h : ∀ piece ∈ pieces, Framed piece ∧ '\n' ∉ piece) :
    lines (joinWith ['\n'] pieces) = pieces := by
  by_cases hnone : pieces = []
  · rw [hnone]
    rfl
  · have hsplit : splitOn '\n' (joinWith ['\n'] pieces) = pieces :=
      splitOn_joinWith hnone fun piece hpiece => (h piece hpiece).2
    -- a framed piece does not end with a carriage return
    have hsame : (joinWith ['\n'] pieces).unifyNewlines = joinWith ['\n'] pieces := by
      refine unifyNewlines_of_ended fun piece hpiece start => ?_
      rw [hsplit] at hpiece
      exact (h piece hpiece).1.ne_concat_blank rfl start
    rw [lines, hsame, hsplit]
    split
    · rename_i hlast
      exact absurd rfl (h [] (List.mem_of_getLast? hlast)).1.ne_nil
    · rfl

/-- A line of its own is all there is to read. -/
theorem lines_of_not_mem {line : Text} (hne : line ≠ []) (h : '\n' ∉ line) :
    lines line = [line] := by
  obtain ⟨c, rest, rfl⟩ := List.exists_cons_of_ne_nil hne
  rw [lines, unifyNewlines_of_not_mem (.inl h), splitOn_of_not_mem h]
  rfl

/-- The first line is read up to blanks at its end, and the others behind it. -/
theorem lines_append_cons {line : Text} (h : '\n' ∉ line) (rest : Text) :
    ∃ body, body.trimEnd = line.trimEnd ∧ lines (line ++ '\n' :: rest) = body :: lines rest := by
  obtain ⟨body, hbody, heq⟩ := unifyNewlines_line h rest
  have hnewline : '\n' ∉ body := by rcases hbody with rfl | rfl <;> simp_all
  have htrim : body.trimEnd = line.trimEnd := by
    rcases hbody with rfl | rfl
    · rfl
    · exact (trimEnd_append_blank (by simp [isBlank]) body).symm
  refine ⟨body, htrim, ?_⟩
  obtain ⟨piece, pieces, hsplit⟩ :=
    List.exists_cons_of_ne_nil (splitOn_ne_nil '\n' rest.unifyNewlines)
  rw [lines, heq, splitOn_piece_cons hnewline, lines, hsplit, List.getLast?_cons_cons]
  split <;> rfl

/-- The lines of a text, joined again, are the text with `\n` in place of `\r\n`, without a newline
at its end. -/
theorem joinWith_lines (s : Text) :
    joinWith ['\n'] s.lines =
      if s.unifyNewlines.getLast? = some '\n' then s.unifyNewlines.dropLast
      else s.unifyNewlines := by
  rw [← List.intercalate_splitOn_dropLast '\n' s.unifyNewlines, ← splitOn_eq_list, lines,
    joinWith_eq_list]
  split
  · rename_i hlast
    rw [if_pos hlast]
  · rename_i hlast
    rw [if_neg hlast]

/-- Lines that begin and end visibly are lines for `Text.lines` too. -/
theorem sublist_lines {kept : List Text} (hk : ∀ line ∈ kept, Framed line) {s : Text}
    (h : kept.Sublist (splitOn '\n' s)) : kept.Sublist (lines s) := by
  -- the lines that are kept do not end with a carriage return, so they stay whole
  have hunified : kept.Sublist (splitOn '\n' (unifyNewlines s)) := by
    induction s using lineInduction generalizing kept with
    | last line hline => rwa [unifyNewlines_of_not_mem (.inl hline)]
    | cons line rest hline ih =>
      obtain ⟨body, hbody, heq⟩ := unifyNewlines_line hline rest
      have hn : '\n' ∉ body := by rcases hbody with rfl | rfl <;> simp_all
      rw [splitOn_piece_cons hline] at h
      rw [heq, splitOn_piece_cons hn]
      cases h with
      | cons _ h => exact (ih hk h).cons body
      | cons_cons _ h =>
        rcases hbody with rfl | rfl
        · exact (ih (fun l hl => hk l (List.mem_cons_of_mem _ hl)) h).cons_cons line
        · exact absurd rfl ((hk _ List.mem_cons_self).ne_concat_blank (by decide) body)
  simp only [lines]
  split
  · -- the last piece is empty, and no kept line is
    rename_i hlast
    obtain ⟨pieces, hp⟩ := List.getLast?_eq_some_iff.1 hlast
    rw [hp, List.dropLast_concat]
    rw [hp] at hunified
    refine hunified.of_sublist_append_left fun l hl hmem => ?_
    exact (hk l hl).ne_nil (List.mem_singleton.1 hmem)
  · exact hunified

/-- Without a carriage return, the pieces between newlines are the lines, and then perhaps an
empty piece. -/
theorem exists_splitOn_eq_lines_append {s : Text} (h : '\r' ∉ s) :
    ∃ more, splitOn '\n' s = lines s ++ more := by
  simp only [lines, unifyNewlines_of_not_mem (.inr h)]
  split
  · rename_i hlast
    obtain ⟨pieces, hp⟩ := List.getLast?_eq_some_iff.1 hlast
    exact ⟨[[]], by rw [hp, List.dropLast_concat]⟩
  · exact ⟨[], (List.append_nil _).symm⟩

end Text

end Gemtext
