import Gemtext.Proofs.Layout.Regions
import Gemtext.Proofs.Content.Lines
import Gemtext.Proofs.Text.Characters
import Gemtext.Proofs.Text.CodeSpans

/-!
# Contents that close their code spans

A content `ClosesSpans` if a reader of code spans gets through its characters, and stands between
two spans at its end and wherever a line or a paragraph ends.  So the lines of such a content may be
cut apart, trimmed and joined again, as happens in an item of a list or in a quotation, and no part
of the result holds three backticks in a row (`ClosesSpans.not_fence_infix`).
-/

namespace Gemtext

namespace SpanState

/-- What a reader becomes where a line ends.  It has to stand between two spans there. -/
def endLine : SpanState → Option SpanState
  | outside => some outside
  | _ => none

/-- Read one atom.  Link lines and the ends of cells show no text. -/
def readAtom (state : SpanState) : Atom → Option SpanState
  | .char x => if x = '\n' then state.endLine else state.step x
  | .boundary | .hardBreak => state.endLine
  | .link _ | .cellEnd => some state

/-- Read the atoms in order. -/
def readAtoms (state : SpanState) (c : Content) : Option SpanState :=
  c.foldlM readAtom state

variable {state next : SpanState} {c d : Content} {atom : Atom}

theorem readAtoms_cons (state : SpanState) (atom : Atom) (rest : Content) :
    state.readAtoms (atom :: rest) = (state.readAtom atom).bind fun next => next.readAtoms rest :=
  List.foldlM_cons

/-- A content is read in two parts, one after the other. -/
theorem readAtoms_append (state : SpanState) (c d : Content) :
    state.readAtoms (c ++ d) = (state.readAtoms c).bind fun next => next.readAtoms d :=
  List.foldlM_append

/-- Only a reader between two spans gets past the end of a line, and stays there. -/
theorem endLine_eq_some (h : state.endLine = some next) : state = outside ∧ next = outside := by
  cases state with
  | outside => exact ⟨rfl, (Option.some.inj h).symm⟩
  | opened | inside => cases h

/-- Between two spans, only a backtick leads somewhere else. -/
theorem readAtom_outside (h : atom ≠ .char '`') : outside.readAtom atom = some outside := by
  cases atom with
  | char x =>
    have hx : x ≠ '`' := fun heq => h (congrArg Atom.char heq)
    simp [readAtom, endLine, step, hx]
  | _ => rfl

/-- A blank character leads between two spans only from there. -/
theorem eq_outside_of_readAtom (hblank : atom.isBlank) (h : state.readAtom atom = some outside) :
    state = outside := by
  obtain ⟨x, rfl, hx⟩ := Content.exists_char_of_isBlank hblank
  by_cases hnewline : x = '\n'
  · rw [readAtom, if_pos hnewline] at h
    exact (endLine_eq_some h).1
  · obtain ⟨next, hstep, -, houtside⟩ := exists_step_blank state
    rw [readAtom, if_neg hnewline, hstep x hx] at h
    exact houtside (Option.some.inj h)

/-- Boundaries and hard breaks are read as the newlines that take their place. -/
theorem readAtoms_flattenBlocks (state : SpanState) (c : Content) :
    state.readAtoms c.flattenBlocks = state.readAtoms c := by
  rw [readAtoms, readAtoms, Content.flattenBlocks, List.foldlM_map]
  congr 1
  funext state atom
  cases atom <;> rfl

/-- A carriage return in front of a newline is read with it. -/
theorem readAtoms_return (state : SpanState) (rest : Content) :
    state.readAtoms (.char '\r' :: .char '\n' :: rest) = state.readAtoms (.char '\n' :: rest) := by
  cases state <;> rfl

/-- The carriage return in front of a newline makes no difference to a reader. -/
theorem readAtoms_unifyNewlines (state : SpanState) (c : Content) :
    state.readAtoms c.unifyNewlines = state.readAtoms c := by
  fun_induction Content.unifyNewlines c generalizing state with
  | case1 => rfl
  | case2 rest ih =>
    rw [readAtoms_return, readAtoms_cons, readAtoms_cons]
    simp only [ih]
  | case3 atom rest _ ih => simp only [readAtoms_cons, ih]

/-- To a reader between two spans, a newline is no more than a space. -/
theorem readAtoms_newlinesToSpaces (h : state.readAtoms c = some next) :
    state.readAtoms c.newlinesToSpaces = some next := by
  -- a newline that is read leaves the reader where a space does
  have hspace (state after : SpanState) (rest : Content)
      (h : state.readAtoms (.char '\n' :: rest) = some after) :
      state.readAtoms (.char ' ' :: rest) = some after := by
    rw [readAtoms_cons] at h
    obtain ⟨_, hnewline, h⟩ := Option.bind_eq_some_iff.1 h
    obtain ⟨rfl, rfl⟩ := endLine_eq_some hnewline
    exact h
  fun_induction Content.newlinesToSpaces c generalizing state with
  | case1 => exact h
  | case2 rest ih =>
    rw [readAtoms_return] at h
    have h := hspace _ _ _ h
    rw [readAtoms_cons] at h ⊢
    obtain ⟨middle, hread, h⟩ := Option.bind_eq_some_iff.1 h
    rw [hread]
    exact ih h
  | case3 atom rest _ ih =>
    have h : state.readAtoms ((if atom = .char '\n' then .char ' ' else atom) :: rest) =
        some next := by
      split
      · rename_i heq
        subst heq
        exact hspace _ _ _ h
      · exact h
    rw [readAtoms_cons] at h ⊢
    obtain ⟨middle, hread, h⟩ := Option.bind_eq_some_iff.1 h
    rw [hread]
    exact ih h

/-- Whoever gets through a content gets through its characters. -/
theorem read_plainText (h : state.readAtoms c = some next) :
    state.read c.plainText = some next := by
  induction c generalizing state with
  | nil => exact h
  | cons atom rest ih =>
    rw [readAtoms_cons] at h
    obtain ⟨middle, hread, hrest⟩ := Option.bind_eq_some_iff.1 h
    cases atom with
    | char x =>
      -- where a line ends the reader stays between two spans, as a newline leaves it there
      have hstep : state.step x = some middle := by
        by_cases hx : x = '\n'
        · rw [readAtom, if_pos hx] at hread
          obtain ⟨rfl, rfl⟩ := endLine_eq_some hread
          rw [hx]
          rfl
        · rwa [readAtom, if_neg hx] at hread
      have hcons : Content.plainText (.char x :: rest) = x :: Content.plainText rest := rfl
      rw [hcons, read, hstep]
      exact ih hrest
    | boundary | hardBreak =>
      -- these end a line, and no character shows it
      obtain ⟨rfl, rfl⟩ := endLine_eq_some hread
      exact ih hrest
    | link line | cellEnd =>
      -- these show no text at all
      obtain rfl := Option.some.inj hread
      exact ih hrest

/-- Every line but the first is read from between two spans. -/
theorem exists_splitOn_of_readAtoms (h : state.readAtoms c = some outside) :
    ∃ first others, c.splitOn (.char '\n') = first :: others ∧
      state.readAtoms first = some outside ∧
      ∀ line ∈ others, outside.readAtoms line = some outside := by
  induction c generalizing state with
  | nil => exact ⟨[], [], rfl, h, by simp⟩
  | cons atom rest ih =>
    rw [readAtoms_cons] at h
    obtain ⟨middle, hread, h⟩ := Option.bind_eq_some_iff.1 h
    obtain ⟨first, others, hsplit, hfirst, hothers⟩ := ih h
    rw [Content.splitOn, hsplit]
    -- a newline is read between two spans, so it may end the first line
    by_cases hatom : atom = .char '\n'
    · subst hatom
      obtain ⟨rfl, rfl⟩ := endLine_eq_some hread
      exact ⟨[], first :: others, if_pos rfl, rfl, List.forall_mem_cons.2 ⟨hfirst, hothers⟩⟩
    · refine ⟨atom :: first, others, if_neg hatom, ?_, hothers⟩
      rw [readAtoms_cons, hread]
      exact hfirst

end SpanState

open SpanState

namespace Content

variable {c d : Content}

/-- A reader of code spans that stands between two spans gets through the content, to between two
spans again. -/
def ClosesSpans (c : Content) : Prop :=
  outside.readAtoms c = some outside

namespace ClosesSpans

theorem nil : ClosesSpans [] := rfl

/-- Such contents stand one behind the other. -/
theorem append (hc : ClosesSpans c) (hd : ClosesSpans d) : ClosesSpans (c ++ d) := by
  rw [ClosesSpans, readAtoms_append, hc]
  exact hd

/-- A reader between two spans stays there if there are no backticks. -/
theorem of_not_mem (h : .char '`' ∉ c) : ClosesSpans c := by
  induction c with
  | nil => rfl
  | cons atom rest ih =>
    rw [List.mem_cons, not_or] at h
    rw [ClosesSpans, readAtoms_cons, readAtom_outside (Ne.symm h.1)]
    exact ih h.2

/-- Link lines show no text. -/
theorem of_isLink (h : ∀ atom ∈ c, atom.isLink) : ClosesSpans c :=
  .of_not_mem fun hmem => absurd (h _ hmem) Bool.false_ne_true

theorem linkLines (c : Content) : ClosesSpans c.linkLines :=
  .of_isLink fun _ hatom => (List.mem_filter.1 hatom).2

/-- A text on one line that has its backticks around code. -/
theorem ofText {s : Text} (h : Spanned s) (hnewline : '\n' ∉ s) :
    ClosesSpans (Content.ofText s) := by
  have hread (state : SpanState) : state.readAtoms (Content.ofText s) = state.read s := by
    clear h
    induction s generalizing state with
    | nil => rfl
    | cons x rest ih =>
      rw [List.mem_cons, not_or] at hnewline
      have hcons : Content.ofText (x :: rest) = .char x :: Content.ofText rest := rfl
      rw [hcons, readAtoms_cons, readAtom, if_neg (Ne.symm hnewline.1), SpanState.read]
      simp only [ih hnewline.2]
  exact (hread outside).trans h

/-- A plain text holds no backtick. -/
theorem of_isPlain {s : Text} (h : s.isPlain) : ClosesSpans (Content.ofText s) :=
  .of_not_mem (by simpa [Content.ofText] using (Text.isPlain_iff.1 h).1)

/-- A tame text holds no backtick. -/
theorem of_isTame {s : Text} (h : s.isTame) : ClosesSpans (Content.ofText s) :=
  .of_not_mem (by simpa [Content.ofText] using (Text.isTame_iff.1 h).1)

/-- The characters of the content have their backticks around code. -/
theorem spanned (h : ClosesSpans c) : Spanned (plainText c) :=
  read_plainText h

/-- Wherever the content is cut, no three backticks stand in a row. -/
theorem not_fence_infix (h : ClosesSpans c) (hd : d <:+: c) :
    ¬['`', '`', '`'] <:+: plainText d := fun hfence =>
  h.spanned.not_fence_infix (hfence.trans (hd.filterMap _))

theorem flattenBlocks (h : ClosesSpans c) : ClosesSpans c.flattenBlocks :=
  (readAtoms_flattenBlocks outside c).trans h

theorem newlinesToSpaces (h : ClosesSpans c) : ClosesSpans c.newlinesToSpaces :=
  readAtoms_newlinesToSpaces h

/-- Blank characters lead in no span and out of none. -/
theorem trim (h : ClosesSpans c) : ClosesSpans c.trim := by
  obtain ⟨before, after, hc, hbefore, hafter⟩ := exists_append_trim_append c
  have hfront : ClosesSpans before := .of_not_mem fun hmem => absurd (hbefore _ hmem) (by decide)
  -- read from the back, a blank atom is left only where it was entered
  have hback {state : SpanState} (h : state.readAtoms after = some outside) : state = outside := by
    clear hc
    induction after generalizing state with
    | nil => exact Option.some.inj h
    | cons atom rest ih =>
      obtain ⟨hatom, hrest⟩ := List.forall_mem_cons.1 hafter
      rw [readAtoms_cons] at h
      obtain ⟨next, hread, h⟩ := Option.bind_eq_some_iff.1 h
      obtain rfl := ih hrest h
      exact eq_outside_of_readAtom hatom hread
  rw [ClosesSpans, hc, readAtoms_append, readAtoms_append, hfront, Option.bind_some] at h
  obtain ⟨state, hread, h⟩ := Option.bind_eq_some_iff.1 h
  obtain rfl := hback h
  exact hread

/-- Each line of the content may stand on its own. -/
theorem of_mem_lines (h : ClosesSpans c) {line : Content} (hline : line ∈ c.lines) :
    ClosesSpans line := by
  have hunified : ClosesSpans c.unifyNewlines := (readAtoms_unifyNewlines outside c).trans h
  obtain ⟨first, others, hsplit, hfirst, hothers⟩ := exists_splitOn_of_readAtoms hunified
  have hmem := mem_splitOn_of_mem_lines hline
  rw [hsplit] at hmem
  rcases List.mem_cons.1 hmem with rfl | hmem
  · exact hfirst
  · exact hothers line hmem

/-- Pieces with something between them that holds no backtick. -/
theorem intersperse {sep : Content} (hsep : .char '`' ∉ sep) {pieces : List Content}
    (h : ∀ piece ∈ pieces, ClosesSpans piece) : ClosesSpans (pieces.intersperse sep).flatten := by
  induction pieces with
  | nil => rfl
  | cons piece pieces ih =>
    obtain ⟨hpiece, hpieces⟩ := List.forall_mem_cons.1 h
    cases pieces with
    | nil => simpa using hpiece
    | cons next more =>
      rw [List.intersperse_cons_cons, List.flatten_cons, List.flatten_cons]
      exact hpiece.append ((of_not_mem hsep).append (ih hpieces))

/-- Contents with a text between them that holds no backtick. -/
theorem joinWith {sep : Text} (hsep : '`' ∉ sep) {pieces : List Content}
    (h : ∀ piece ∈ pieces, ClosesSpans piece) : ClosesSpans (Content.joinWith sep pieces) := by
  rw [joinWith_eq_list]
  exact .intersperse (by simpa [Content.ofText] using hsep) h

end ClosesSpans

end Content

end Gemtext
