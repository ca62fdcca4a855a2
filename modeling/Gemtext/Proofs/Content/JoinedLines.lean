import Gemtext.Proofs.Content.Buffer

/-!
# Joining undoes cutting into lines

The lines of a content, joined by newlines, are the content with `\n` in place of `\r\n`, without a
newline at its end (`Content.joinWith_lines`).

On fragments, reading `\r\n` as `\n` goes through the texts one by one, since the two characters
stand in one text if a buffer is in normal form (`ofFragments_map_unified`).  So the lines of a
buffer, joined by newlines, are the buffer with each text read so, and one newline fewer at its end
(`joined_lines_of_buffer`): its marks stand where they stood.
-/

namespace Gemtext

namespace Content

/-- The lines of a content, joined again, are the content with `\n` in place of `\r\n`, without a
newline at its end. -/
protected theorem joinWith_lines (c : Content) :
    joinWith ['\n'] c.lines =
      if c.unifyNewlines.getLast? = some (.char '\n') then c.unifyNewlines.dropLast
      else c.unifyNewlines := by
  rw [← List.intercalate_splitOn_dropLast (.char '\n') c.unifyNewlines, ← splitOn_eq_list, lines,
    joinWith_eq_list]
  split
  · rename_i hlast
    rw [if_pos hlast]
    rfl
  · rename_i hlast
    rw [if_neg hlast]
    rfl

end Content

namespace Fragment

/-- The fragment with `\n` in place of each `\r\n` of a text. -/
def unified : Fragment → Fragment
  | text s => text (Text.unifyNewlines s)
  | mark => mark

@[simp]
theorem isText_unified (fragment : Fragment) : fragment.unified.isText = fragment.isText := by
  cases fragment <;> rfl

/-- A line break that is read as a newline leaves something behind. -/
theorem unifyNewlines_eq_nil_iff {s : Text} : s.unifyNewlines = [] ↔ s = [] := by
  fun_cases Text.unifyNewlines s <;> simp

/-- Reading line breaks changes no text into a mark and empties none. -/
theorem normal_map_unified {fs : List Fragment} (h : Normal fs) : Normal (fs.map unified) := by
  induction fs with
  | nil => trivial
  | cons fragment rest ih =>
    obtain ⟨hne, hapart, hrest⟩ := h
    refine ⟨fun hempty => hne ?_, ?_, ih hrest⟩
    · -- a text that becomes empty was empty
      cases fragment with
      | text s =>
        have hs : s.unifyNewlines = [] := Fragment.text.inj hempty
        rw [unifyNewlines_eq_nil_iff.1 hs]
      | _ => cases hempty
    · -- the neighbours stay texts and marks
      cases rest with
      | nil => simp
      | cons next more => simpa using hapart

end Fragment

namespace Buffer

open Content Fragment

variable {b : Buffer}

/-- In normal form, a carriage return and the newline behind it stand in one text. -/
theorem ofFragments_map_unified (h : Normal b) :
    ofFragments (b.map unified) = (ofFragments b).unifyNewlines := by
  induction b with
  | nil => rfl
  | cons fragment rest ih =>
    obtain ⟨-, hapart, hrest⟩ := h
    rw [List.map_cons, ofFragments_cons, ofFragments_cons, ih hrest]
    cases fragment with
    | text s =>
      have hmark : (ofFragments rest).head? ≠ some (.char '\n') := head?_ofFragments_ne hapart
      rw [Fragment.atoms, unifyNewlines_ofText_append hmark]
      rfl
    | _ => exact (unifyNewlines_atoms_append rfl _).symm

/-- The buffer without the newline that its last fragment ends with, if it is a text that does. -/
def withoutLastNewline (b : Buffer) : Buffer :=
  match b.getLast? with
  | some (.text s) => if s.getLast? = some '\n' then pushText b.dropLast s.dropLast else b
  | _ => b

/-- Dropping the last newline keeps the normal form: a text that held nothing else is gone. -/
theorem normal_withoutLastNewline (h : Normal b) : Normal b.withoutLastNewline := by
  rw [withoutLastNewline]
  split
  · rename_i s hlast
    obtain ⟨front, rfl⟩ := List.getLast?_eq_some_iff.1 hlast
    split
    · rw [List.dropLast_concat]
      exact normal_pushText (normal_append_iff.1 h).1 s.dropLast
    · exact h
  · exact h

/-- The newline that is dropped is the last atom. -/
theorem ofFragments_withoutLastNewline (h : Normal b) :
    ofFragments b.withoutLastNewline =
      if (ofFragments b).getLast? = some (.char '\n') then (ofFragments b).dropLast
      else ofFragments b := by
  rcases List.eq_nil_or_concat b with rfl | ⟨front, last, hb⟩
  · rfl
  · rw [List.concat_eq_append] at hb
    subst hb
    rw [withoutLastNewline, List.getLast?_concat, List.dropLast_concat, ofFragments_append]
    cases last with
    | text s =>
      -- in normal form the last text has a last character
      have hne : s ≠ [] := by
        rintro rfl
        exact (normal_append_iff.1 h).2.1.1 rfl
      obtain ⟨start, x, rfl⟩ : ∃ start x, s = start ++ [x] :=
        ⟨s.dropLast, s.getLast hne, (List.dropLast_concat_getLast hne).symm⟩
      have hatoms : ofFragments [.text (start ++ [x])] = ofText start ++ [.char x] := by
        simp [Fragment.atoms, ofText]
      rw [hatoms, ← List.append_assoc, List.getLast?_concat, List.dropLast_concat]
      -- the last atom is the last character of the text
      by_cases hx : x = '\n'
      · subst hx
        simp [ofFragments_pushText]
      · simp [hx, Fragment.atoms, ofText]
    | _ => simp [Fragment.atoms]

/-- Joining undoes cutting.  The lines of a buffer, which are those of its atoms, hold no newline in
their texts.  Joined by newlines they are the buffer, each mark where it stood, with `\n` in place
of each `\r\n` in its texts and, if it ends with a text that ends with a newline, without that
newline. -/
theorem joined_lines_of_buffer (hb : Normal b) :
    (b.lines = (ofFragments b).lines.map fragments ∧
        ∀ line ∈ b.lines, ∀ s, .text s ∈ line → '\n' ∉ s) ∧
      joinWith ['\n'] b.lines = withoutLastNewline (b.map unified) ∧
      Content.joinWith ['\n'] (ofFragments b).lines =
        ofFragments (withoutLastNewline (b.map unified)) := by
  have hlines : b.lines = (ofFragments b).lines.map fragments := by
    conv => lhs; rw [← fragments_ofFragments hb]
    exact lines_fragments (ofFragments b)
  have hunified : Normal (b.map unified) := normal_map_unified hb
  have hjoined : Content.joinWith ['\n'] (ofFragments b).lines =
      ofFragments (withoutLastNewline (b.map unified)) := by
    rw [Content.joinWith_lines, ofFragments_withoutLastNewline hunified,
      ofFragments_map_unified hb]
  refine ⟨⟨hlines, fun line hline s hs hnewline => ?_⟩, ?_, hjoined⟩
  · rw [hlines] at hline
    obtain ⟨c, hc, rfl⟩ := List.mem_map.1 hline
    -- the newline would be an atom of the line
    have hatom : .char '\n' ∈ ofFragments (fragments c) :=
      List.mem_flatMap.2 ⟨.text s, hs, List.mem_map_of_mem hnewline⟩
    rw [ofFragments_fragments] at hatom
    exact newline_not_mem_of_mem_lines hc hatom
  · rw [hlines, joinWith_fragments]
    exact (eq_fragments_of_normal (normal_withoutLastNewline hunified) hjoined.symm).symm

/-- Two newlines in a row leave an empty line between them, the newline at the end leaves none, and
a carriage return stays if a mark stands between it and the newline. -/
theorem joined_lines_of_buffer_marks :
    let b : Buffer := [.text "a\r\n\nb\r".toList, .hardBreak, .text "\nc\r\n".toList]
    Normal b ∧ b.lines.length = 4 ∧
      joinWith ['\n'] b.lines =
        [.text "a\n\nb\r".toList, .hardBreak, .text "\nc".toList] := by
  intro b
  have hnormal : Normal b := by simp [b, Fragment.Normal, Fragment.isText]
  exact ⟨hnormal, by decide, (joined_lines_of_buffer hnormal).2.1.trans (by decide)⟩

end Buffer

end Gemtext
