import Gemtext.Text.Basic

/-!
# Backticks around code

Rendering sets backticks only around the text of a code span, which is not empty and holds none.
Such a text (`Spanned`) may hold two backticks in a row, where one span follows another, but never
three, so no part of it opens a fence (`Spanned.not_fence_infix`).  The words of such a text joined
by spaces are such a text again (`Spanned.collapseBlank`).
-/

namespace Gemtext

/-- Where a reader of code spans stands. -/
inductive SpanState where
  /-- Between two spans. -/
  | outside
  /-- Right behind the backtick that begins a span. -/
  | opened
  /-- In a span that holds something already. -/
  | inside
  deriving DecidableEq, Repr

namespace SpanState

/-- Read one character.  A span may not be empty. -/
def step (state : SpanState) (c : Char) : Option SpanState :=
  if c = '`' then
    match state with
    | outside => some opened
    | opened => none
    | inside => some outside
  else
    match state with
    | outside => some outside
    | opened => some inside
    | inside => some inside

/-- Read a text. -/
def read (state : SpanState) : Text → Option SpanState
  | [] => some state
  | c :: rest => (state.step c).bind fun next => read next rest

variable {state next : SpanState}

/-- A text is read in two parts, one after the other. -/
theorem read_append (state : SpanState) (s t : Text) :
    state.read (s ++ t) = (state.read s).bind fun next => next.read t := by
  induction s generalizing state with
  | nil => rfl
  | cons c rest ih =>
    rw [List.cons_append, read, read, Option.bind_assoc]
    congr 1
    funext next
    exact ih next

/-- Between two spans, a reader passes all but backticks. -/
theorem read_outside {s : Text} (h : '`' ∉ s) : outside.read s = some outside := by
  induction s with
  | nil => rfl
  | cons c rest ih =>
    rw [List.mem_cons, not_or] at h
    obtain ⟨hc, hrest⟩ := h
    rw [read, step, if_neg fun heq => hc heq.symm]
    exact ih hrest

/-- So does a reader within a span. -/
theorem read_inside {s : Text} (h : '`' ∉ s) : inside.read s = some inside := by
  induction s with
  | nil => rfl
  | cons c rest ih =>
    rw [List.mem_cons, not_or] at h
    obtain ⟨hc, hrest⟩ := h
    rw [read, step, if_neg fun heq => hc heq.symm]
    exact ih hrest

/-- No reader gets past three backticks. -/
theorem read_fence (state : SpanState) : state.read ['`', '`', '`'] = none := by
  cases state <;> rfl

/-- A blank character is part of what is being read.  A second one changes nothing. -/
theorem exists_step_blank (state : SpanState) :
    ∃ next, (∀ c, isBlank c → state.step c = some next) ∧ next.step ' ' = some next ∧
      (next = outside → state = outside) := by
  have hne {c : Char} (hc : isBlank c) : c ≠ '`' := by
    rintro rfl
    exact absurd hc (by decide)
  cases state with
  | outside => exact ⟨outside, fun c hc => if_neg (hne hc), rfl, fun _ => rfl⟩
  | opened => exact ⟨inside, fun c hc => if_neg (hne hc), rfl, nofun⟩
  | inside => exact ⟨inside, fun c hc => if_neg (hne hc), rfl, nofun⟩

end SpanState

open SpanState

namespace Text

/-! ## The words of a text -/

/-- A blank character in front belongs to no word. -/
theorem words_blank {c : Char} (hc : isBlank c) (rest : Text) : words (c :: rest) = words rest := by
  rw [words.eq_def]
  exact if_pos hc

/-- Nor does it leave a trace in the collapsed text. -/
theorem collapseBlank_blank {c : Char} (hc : isBlank c) (rest : Text) :
    collapseBlank (c :: rest) = collapseBlank rest := by
  rw [collapseBlank, words_blank hc, ← collapseBlank]

/-- A visible character begins a word. -/
theorem words_visible_ne_nil {c : Char} (hc : isBlank c = false) (rest : Text) :
    words (c :: rest) ≠ [] := by
  rw [words.eq_def]
  dsimp only
  rw [if_neg (by simp [hc])]
  split
  · exact List.cons_ne_nil _ _
  · split
    · exact List.cons_ne_nil _ _
    · split <;> exact List.cons_ne_nil _ _

/-- What is left of a text behind a visible character: a space stands for the blank characters that
it begins with, if a word follows. -/
def collapseBehind (s : Text) : Text :=
  if s.head?.any isBlank && !(words s).isEmpty then ' ' :: collapseBlank s else collapseBlank s

/-- A visible character stays in front, and what follows is collapsed behind it. -/
theorem collapseBlank_visible {c : Char} (hc : isBlank c = false) (rest : Text) :
    collapseBlank (c :: rest) = c :: collapseBehind rest := by
  rw [collapseBehind, collapseBlank, words.eq_def]
  dsimp only
  rw [if_neg (by simp [hc])]
  cases rest with
  | nil => rfl
  | cons d more =>
    dsimp only
    -- a blank character ends the word
    by_cases hd : isBlank d
    · cases hwords : words (d :: more) with
      | nil => simp [hd, hwords, joinWith, collapseBlank]
      | cons word others => simp [hd, hwords, joinWith, collapseBlank]
    · -- the character belongs to the first word behind it
      obtain ⟨word, others, hwords⟩ := List.exists_cons_of_ne_nil
        (words_visible_ne_nil (Bool.eq_false_iff.2 hd) more)
      cases others with
      | nil => simp [hd, hwords, joinWith, collapseBlank]
      | cons next more => simp [hd, hwords, joinWith, collapseBlank]

/-- Visible characters stay next to each other. -/
theorem collapseBehind_visible {c : Char} (hc : isBlank c = false) (rest : Text) :
    collapseBehind (c :: rest) = c :: collapseBehind rest := by
  rw [collapseBehind, List.head?_cons, Option.any_some, hc, Bool.false_and,
    if_neg Bool.false_ne_true, collapseBlank_visible hc]

/-- Blank characters in front leave no trace. -/
theorem collapseBlank_append_of_blank {blanks : Text} (h : ∀ c ∈ blanks, isBlank c) (s : Text) :
    collapseBlank (blanks ++ s) = collapseBlank s := by
  induction blanks with
  | nil => rfl
  | cons c rest ih =>
    obtain ⟨hc, hrest⟩ := List.forall_mem_cons.1 h
    rw [List.cons_append, collapseBlank_blank hc, ih hrest]

/-- Only a text without words collapses to nothing. -/
theorem collapseBlank_eq_nil_iff {s : Text} : collapseBlank s = [] ↔ words s = [] := by
  induction s with
  | nil => exact ⟨fun _ => rfl, fun _ => rfl⟩
  | cons c rest ih =>
    by_cases hc : isBlank c
    · rw [collapseBlank_blank hc, words_blank hc, ih]
    · rw [Bool.not_eq_true] at hc
      rw [collapseBlank_visible hc]
      exact iff_of_false (List.cons_ne_nil _ _) (words_visible_ne_nil hc rest)

/-- Blank characters behind a visible one leave a space, if a word follows. -/
theorem collapseBehind_append_of_blank {blanks : Text} (hne : blanks ≠ [])
    (h : ∀ c ∈ blanks, isBlank c) (s : Text) :
    collapseBehind (blanks ++ s) =
      if collapseBlank s = [] then [] else ' ' :: collapseBlank s := by
  have hfirst : (blanks ++ s).head?.any isBlank := by
    obtain ⟨c, rest, rfl⟩ := List.exists_cons_of_ne_nil hne
    exact h c List.mem_cons_self
  have hwords : (words (blanks ++ s)).isEmpty ↔ collapseBlank s = [] := by
    rw [List.isEmpty_iff, ← collapseBlank_eq_nil_iff, collapseBlank_append_of_blank h]
  rw [collapseBehind, collapseBlank_append_of_blank h, hfirst, Bool.true_and]
  by_cases hnone : collapseBlank s = []
  · simp [hwords.2 hnone, hnone]
  · simp [Bool.eq_false_iff.2 fun hempty => hnone (hwords.1 hempty), hnone]

/-- Joining the words does not change where a reader ends between two spans. -/
theorem read_collapseBehind {state : SpanState} {s : Text} (h : state.read s = some outside) :
    state.read (collapseBehind s) = some outside := by
  induction s generalizing state with
  | nil => exact h
  | cons c rest ih =>
    by_cases hc : isBlank c
    · obtain ⟨next, hstep, hspace, houtside⟩ := exists_step_blank state
      rw [SpanState.read, hstep c hc] at h
      have hrest := ih h
      have hwords := words_blank hc rest
      cases hempty : (words rest).isEmpty with
      | true =>
        -- only blank characters are left, so the reader stood between two spans already
        have hnone : collapseBlank rest = [] := by
          rw [collapseBlank, List.isEmpty_iff.1 hempty]
          rfl
        simp only [collapseBehind, hempty, hnone, hwords, collapseBlank_blank hc, Bool.not_true,
          Bool.and_false, Bool.false_eq_true, if_false, SpanState.read, Option.some.injEq]
          at hrest ⊢
        exact houtside hrest
      | false =>
        have hread : next.read (collapseBlank rest) = some outside := by
          rw [collapseBehind] at hrest
          split at hrest
          · rwa [SpanState.read, hspace] at hrest
          · exact hrest
        simp only [collapseBehind, hwords, hempty, collapseBlank_blank hc, List.head?_cons,
          Option.any_some, hc, Bool.not_false, Bool.and_true, if_true]
        rw [SpanState.read, hstep ' ' (by decide)]
        exact hread
    · rw [Bool.not_eq_true] at hc
      rw [collapseBehind_visible hc, SpanState.read]
      rw [SpanState.read] at h
      cases hstep : state.step c with
      | none => simp [hstep] at h
      | some next =>
        rw [hstep] at h
        exact ih h

end Text

/-! ## Texts with code spans -/

/-- Every backtick of the text begins or ends a code span that is not empty. -/
def Spanned (s : Text) : Prop :=
  outside.read s = some outside

namespace Spanned

variable {s t : Text}

/-- A text without backticks has no spans to close. -/
theorem of_not_mem (h : '`' ∉ s) : Spanned s :=
  read_outside h

/-- Such texts stand one behind the other. -/
theorem append (hs : Spanned s) (ht : Spanned t) : Spanned (s ++ t) := by
  rw [Spanned, read_append, hs]
  exact ht

/-- A text without backticks in front may be taken away. -/
theorem of_not_mem_append (hs : '`' ∉ s) (h : Spanned (s ++ t)) : Spanned t := by
  rw [Spanned, read_append, read_outside hs] at h
  exact h

/-- A text without backticks behind may be taken away: a reader in a span would still be in it. -/
theorem of_append (ht : '`' ∉ t) (h : Spanned (s ++ t)) : Spanned s := by
  rw [Spanned, read_append] at h
  obtain ⟨state, hread, hrest⟩ := Option.bind_eq_some_iff.1 h
  rw [Spanned, hread]
  -- a span that is open cannot be closed without a backtick
  cases state with
  | outside => rfl
  | inside =>
    rw [read_inside ht] at hrest
    cases hrest
  | opened =>
    cases t with
    | nil => cases hrest
    | cons c rest =>
      rw [List.mem_cons, not_or] at ht
      obtain ⟨hc, hmore⟩ := ht
      have hstep : opened.step c = some inside := if_neg fun heq => hc heq.symm
      rw [SpanState.read, hstep, Option.bind_some, read_inside hmore] at hrest
      cases hrest

/-- A code span. -/
theorem code (hne : s ≠ []) (h : '`' ∉ s) : Spanned ('`' :: s ++ ['`']) := by
  obtain ⟨c, rest, rfl⟩ := List.exists_cons_of_ne_nil hne
  rw [List.mem_cons, not_or] at h
  obtain ⟨hc, hrest⟩ := h
  have hopen : opened.step c = some inside := if_neg fun heq => hc heq.symm
  rw [Spanned, List.cons_append, SpanState.read]
  show opened.read (c :: rest ++ ['`']) = some outside
  rw [List.cons_append, SpanState.read, hopen]
  show inside.read (rest ++ ['`']) = some outside
  rw [read_append, read_inside hrest]
  rfl

/-- Nothing in the text looks like a fence. -/
theorem not_fence_infix (h : Spanned s) : ¬['`', '`', '`'] <:+: s := by
  rintro ⟨before, after, rfl⟩
  rw [Spanned, read_append, read_append] at h
  cases hbefore : outside.read before with
  | none => simp [hbefore] at h
  | some state => simp [hbefore, read_fence] at h

/-- Collapsing keeps the backticks around code, since a blank character stays on its side of one. -/
theorem collapseBlank (h : Spanned s) : Spanned s.collapseBlank := by
  have hbehind := Text.read_collapseBehind h
  rw [Text.collapseBehind] at hbehind
  split at hbehind
  · exact hbehind
  · exact hbehind

end Spanned

end Gemtext
