import Gemtext.Proofs.Content.Lines
import Gemtext.Proofs.Layout.Closed
import Gemtext.Proofs.Text.Characters
import Gemtext.Proofs.Text.CodeSpans

/-!
# Texts without fences

A text is `Bland` if it holds neither a fence, wherever in a line, nor a carriage return.  Whatever
is cut out of such a text is bland as well, and so is what is put together from such texts with
other characters between them.  The lines of a content are bland if its text is and its link lines
are, since every link line is printed on lines of its own (`bland_parted_flattenBlocks`).
-/

namespace Gemtext

open Text

namespace Layout

/-- The text holds neither a fence nor a carriage return. -/
structure Bland (s : Text) : Prop where
  noFence : ¬fence <:+: s
  noReturn : '\r' ∉ s

namespace Bland

variable {s t : Text} {x : Char}

/-- A tame text is bland. -/
theorem of_isTame (h : s.isTame) : Bland s :=
  ⟨fun hfence => (isTame_iff.1 h).1 (hfence.mem List.mem_cons_self), (isTame_iff.1 h).2⟩

theorem nil : Bland [] :=
  of_isTame rfl

/-- Backticks around code make no fence. -/
theorem of_spanned (h : Spanned s) (hreturn : '\r' ∉ s) : Bland s :=
  ⟨h.not_fence_infix, hreturn⟩

/-- What is cut out of the text. -/
theorem of_isInfix (ht : Bland t) (h : s <:+: t) : Bland s :=
  ⟨fun hfence => ht.noFence (hfence.trans h), fun hmem => ht.noReturn (h.mem hmem)⟩

/-- No fence reaches over another character. -/
theorem append_cons (hs : Bland s) (ht : Bland t) (htick : x ≠ '`') (hreturn : x ≠ '\r') :
    Bland (s ++ x :: t) where
  noFence h := by
    have hx : x ∉ fence := by simp [fence, htick]
    rcases List.isInfix_or_isInfix_of_append_cons hx h with h | h
    · exact hs.noFence h
    · exact ht.noFence h
  noReturn := by simp [hs.noReturn, ht.noReturn, hreturn.symm]

/-- A fence does not go across lines. -/
theorem append_newline (hs : Bland s) (ht : Bland t) : Bland (s ++ '\n' :: t) :=
  hs.append_cons ht (by decide) (by decide)

/-- A tame text in front. -/
theorem append_left (h : s.isTame) (ht : Bland t) : Bland (s ++ t) := by
  induction s with
  | nil => exact ht
  | cons x s ih =>
    rw [isTame, List.all_cons, Bool.and_eq_true, Bool.and_eq_true, bne_iff_ne, bne_iff_ne] at h
    exact nil.append_cons (ih h.2) h.1.1 h.1.2

/-- Nor does it go across another separator than a backtick. -/
theorem joinWith {pieces : List Text} (h : ∀ piece ∈ pieces, Bland piece) (htick : x ≠ '`')
    (hreturn : x ≠ '\r') : Bland (Text.joinWith [x] pieces) := by
  induction pieces with
  | nil => exact nil
  | cons piece pieces ih =>
    obtain ⟨hpiece, hpieces⟩ := List.forall_mem_cons.1 h
    by_cases hnil : pieces = []
    · subst hnil
      exact hpiece
    · rw [joinWith_cons hnil, List.append_assoc]
      exact hpiece.append_cons (ih hpieces) htick hreturn

/-- None of its lines seems a fence or begins with a carriage return. -/
theorem steady (h : Bland s) : Steady s := by
  have hline {line : Text} (hline : line ∈ splitOn '\n' s) : Bland line := by
    rw [splitOn_eq_list] at hline
    exact h.of_isInfix (List.isInfix_of_mem_splitOn hline)
  refine steady_iff.2 ⟨fun line hmem => ?_, fun line hmem => ?_⟩
  · exact Bool.eq_false_iff.2 fun hseems =>
      (hline hmem).noFence (fence_isInfix_of_seemsFence hseems)
  · cases line with
    | nil => rfl
    | cons c rest =>
      have hc : c ≠ '\r' := fun heq => (hline hmem).noReturn (heq ▸ List.mem_cons_self)
      simp [hidesBehindReturn, hc]

end Bland

end Layout

namespace Content

variable {c d : Content}

/-! ## Contents with every link line on lines of its own -/

@[simp]
theorem parted_append (c d : Content) : parted (c ++ d) = parted c ++ parted d :=
  List.flatMap_append

/-- A text has no link lines to part. -/
theorem parted_ofText (s : Text) : parted (ofText s) = s := by
  induction s with
  | nil => rfl
  | cons x rest ih =>
    show x :: parted (ofText rest) = x :: rest
    rw [ih]

theorem parted_link (line : LinkLine) (c : Content) :
    parted (.link line :: c) = '\n' :: (line.print ++ '\n' :: parted c) := by
  simp [parted]

/-- What stands within a content is parted as it is there. -/
theorem parted_isInfix (h : c <:+: d) : parted c <:+: parted d := by
  obtain ⟨before, after, rfl⟩ := h
  exact ⟨parted before, parted after, by simp⟩

/-- Lines are parted one by one. -/
theorem parted_joinWith (sep : Text) (lines : List Content) :
    parted (joinWith sep lines) = Text.joinWith sep (lines.map parted) := by
  induction lines with
  | nil => rfl
  | cons line lines ih =>
    by_cases hnil : lines = []
    · subst hnil
      rfl
    · rw [joinWith_cons hnil, List.map_cons, Text.joinWith_cons (by simpa using hnil),
        parted_append, parted_append, parted_ofText, ih]

open Layout

/-- Every link line of the content is printed without a fence. -/
def BlandLinks (c : Content) : Prop :=
  ∀ line, .link line ∈ c → Bland line.print

/-- A content shows no fence if neither its text nor its link lines do.  Its boundaries and hard
breaks may be turned into newlines. -/
theorem bland_parted_flattenBlocks (hlinks : BlandLinks c) {start : Text}
    (h : Bland (start ++ plainText c)) : Bland (start ++ parted c.flattenBlocks) := by
  -- `start` is what was read so far of the line, since a fence may begin in it
  induction c generalizing start with
  | nil => exact h
  | cons atom rest ih =>
    have hrest := fun line hline => hlinks line (List.mem_cons_of_mem atom hline)
    -- behind a newline the text begins anew
    have hafter (h : Bland (start ++ plainText rest)) :
        Bland start ∧ Bland (parted (flattenBlocks rest)) :=
      ⟨h.of_isInfix (List.prefix_append _ _).isInfix,
        @ih hrest [] (h.of_isInfix (List.suffix_append _ _).isInfix)⟩
    cases atom with
    | char x =>
      have hchar : Bland (start ++ [x] ++ plainText rest) := by
        rwa [List.append_assoc]
      have hshown := ih hrest hchar
      rwa [List.append_assoc] at hshown
    | boundary => exact (hafter h).1.append_newline (hafter h).2
    | hardBreak => exact (hafter h).1.append_newline (hafter h).2
    | link line =>
      show Bland (start ++ parted (.link line :: flattenBlocks rest))
      rw [parted_link]
      exact (hafter h).1.append_newline
        ((hlinks line List.mem_cons_self).append_newline (hafter h).2)
    | cellEnd => exact ih hrest h

end Content

end Gemtext
