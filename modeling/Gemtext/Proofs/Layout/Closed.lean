import Gemtext.Proofs.Layout.Fences
import Gemtext.Proofs.Layout.Seams

/-!
# Texts that the passes over lines leave where they began

The passes over the lines of a text carry on whether a fence is open and whether they have just
passed a link line.  A text is `Closed` if neither is the case behind it, so what is shown of two
texts in a row, the first of them closed, is what is shown of the one and then of the other
(`Closed.shownLines_passes_append`).

A text that ends with a blank line is closed if its lines are `Steady`: none seems a fence, and none
begins with a carriage return, which would be lost at the beginning of a document.  A block of
preformatted lines is closed, too.
-/

namespace Gemtext

open Text

namespace Layout

/-! ## Steady lines -/

/-- Whether the line begins with a carriage return and shows something behind it. -/
def hidesBehindReturn (line : Text) : Bool :=
  line.head? == some '\r' && !line.allBlank

/-- Whether the line begins like a fence behind its leading blank characters, or with a carriage
return.  Where such a line stands matters to the layout. -/
def isUnsteady (line : Text) : Bool :=
  seemsFence line || hidesBehindReturn line

/-- No line of the text is unsteady. -/
def Steady (s : Text) : Prop :=
  lineCount isUnsteady s = 0

/-- Blank characters at the end show nothing. -/
theorem ignoresEnd_hidesBehindReturn : IgnoresEnd hidesBehindReturn where
  nil := rfl
  append_blank {line blanks} hblanks := by
    have hall : blanks.all isBlank = true := List.all_eq_true.2 hblanks
    cases line with
    | nil =>
      rw [List.nil_append, hidesBehindReturn, allBlank, hall, Bool.not_true, Bool.and_false]
      rfl
    | cons c rest =>
      rw [hidesBehindReturn, hidesBehindReturn, allBlank, List.all_append, hall, Bool.and_true]
      rfl

theorem IgnoresEnd.or {p q : Text → Bool} (hp : IgnoresEnd p) (hq : IgnoresEnd q) :
    IgnoresEnd fun line => p line || q line where
  nil := by rw [hp.nil, hq.nil]; rfl
  append_blank hblanks := by rw [hp.append_blank hblanks, hq.append_blank hblanks]

theorem ignoresEnd_isUnsteady : IgnoresEnd isUnsteady :=
  ignoresEnd_seemsFence.or ignoresEnd_hidesBehindReturn

/-- A line that begins visibly, and not with a backtick. -/
theorem isUnsteady_visible_cons {x : Char} (hblank : isBlank x = false) (hne : x ≠ '`')
    (rest : Text) : isUnsteady (x :: rest) = false := by
  have hreturn : x ≠ '\r' := ne_of_visible hblank rfl
  simp [isUnsteady, seemsFence_visible_cons hblank hne, hidesBehindReturn, hreturn]

/-- A text is steady if it has neither kind of unsteady line. -/
theorem steady_iff {s : Text} : Steady s ↔
    (∀ line ∈ splitOn '\n' s, seemsFence line = false) ∧
      ∀ line ∈ splitOn '\n' s, hidesBehindReturn line = false := by
  simp [Steady, lineCount, List.countP_eq_zero, isUnsteady, forall_and]

theorem Steady.isUnsteady_of_mem {s line : Text} (h : Steady s) (hline : line ∈ splitOn '\n' s) :
    isUnsteady line = false :=
  Bool.eq_false_iff.2 (List.countP_eq_zero.1 h line hline)

/-- A fence begins with a backtick. -/
theorem hidesBehindReturn_of_isFence {line : Text} (h : isFence line) :
    hidesBehindReturn line = false := by
  cases line with
  | nil => rfl
  | cons c rest =>
    have hc : c ≠ '\r' := by
      rintro rfl
      rw [isFence_blank_cons (by decide)] at h
      cases h
    simp [hidesBehindReturn, hc]

/-! ## The passes over lines -/

/-- Line terminators in front of a text show nothing, and neither does what stands behind them on
their line. -/
theorem shown_dropTerminators {s : Text}
    (h : ∀ line ∈ splitOn '\n' s, hidesBehindReturn line = false) :
    shown (splitOn '\n' (s.dropWhile fun c => c == '\r' || c == '\n')) =
      shown (splitOn '\n' s) := by
  -- each terminator that is taken away belongs to a blank line
  induction s with
  | nil => rfl
  | cons c rest ih =>
    rw [List.dropWhile_cons]
    split
    · rename_i hc
      obtain ⟨first, more, hsplit⟩ := List.exists_cons_of_ne_nil (splitOn_ne_nil '\n' rest)
      by_cases hn : c = '\n'
      · subst hn
        have hcons : splitOn '\n' ('\n' :: rest) = [] :: splitOn '\n' rest := by
          rw [splitOn, if_pos rfl]
        rw [hcons] at h ⊢
        rw [ih (List.forall_mem_cons.1 h).2, shown_cons, shown_of_blank (by simp), List.nil_append]
      · -- the carriage return stands in the first line, which is blank
        obtain rfl : c = '\r' := by simpa [hn] using hc
        have hcons : splitOn '\n' ('\r' :: rest) = ('\r' :: first) :: more := by
          rw [splitOn, if_neg hn, hsplit]
        rw [hcons] at h ⊢
        obtain ⟨hfirst, hmore⟩ := List.forall_mem_cons.1 h
        have hblank : ∀ c ∈ '\r' :: first, isBlank c := by
          simpa [hidesBehindReturn, allBlank] using hfirst
        have hblank' := (List.forall_mem_cons.1 hblank).2
        have hnone : hidesBehindReturn first = false := by
          rw [hidesBehindReturn, allBlank, List.all_eq_true.2 hblank', Bool.not_true,
            Bool.and_false]
        rw [ih (by rw [hsplit]; exact List.forall_mem_cons.2 ⟨hnone, hmore⟩), hsplit, shown_cons,
          shown_of_blank hblank', shown_cons, shown_of_blank hblank]
    · rfl

/-- A stripped line begins visibly, and every other line is one that was there. -/
theorem hidesBehindReturn_of_mem_stripLinesAfterLinks {inFence strip : Bool} {lines : List Text}
    (h : ∀ line ∈ lines, hidesBehindReturn line = false) {line : Text}
    (hline : line ∈ stripLinesAfterLinks inFence strip lines) : hidesBehindReturn line = false := by
  induction lines generalizing inFence strip with
  | nil => simp [stripLinesAfterLinks] at hline
  | cons first rest ih =>
    obtain ⟨hfirst, hrest⟩ := List.forall_mem_cons.1 h
    obtain ⟨shown, hshown, heq⟩ := stripLinesAfterLinks_cons inFence strip first rest
    rw [heq] at hline
    rcases List.mem_cons.1 hline with rfl | hline
    · cases strip with
      | false => rwa [hshown]
      | true =>
        -- a line without leading blank characters does not begin with a carriage return
        cases htrim : first.trimStart with
        | nil =>
          rw [hshown, if_pos rfl, htrim]
          rfl
        | cons c rest =>
          have hc : isBlank c = false := List.not_of_dropWhile_eq_cons htrim
          have hne : c ≠ '\r' := ne_of_visible hc rfl
          rw [hshown, if_pos rfl, htrim, hidesBehindReturn]
          simp [hne]
    · exact ih hrest hline

/-- The passes over the lines of a text only strip those that follow link lines. -/
theorem shownLines_passes {s : Text} (h : ∀ line ∈ splitOn '\n' s, hidesBehindReturn line = false) :
    (limitNewlines 0 (trimDocument (stripAfterLinks s))).shownLines =
      shown (stripLinesAfterLinks false false (splitOn '\n' s)) := by
  have hstripped : ∀ line ∈ splitOn '\n' (stripAfterLinks s), hidesBehindReturn line = false := by
    rw [splitOn_stripAfterLinks]
    exact fun line => hidesBehindReturn_of_mem_stripLinesAfterLinks h
  have htrimmed : lineCount hidesBehindReturn (stripAfterLinks s).trimEnd = 0 := by
    rw [lineCount_trimEnd ignoresEnd_hidesBehindReturn]
    simpa [lineCount, List.countP_eq_zero] using hstripped
  rw [shownLines_eq, shown_splitOn_limitNewlines, trimDocument, shown_dropTerminators,
    shown_splitOn_trimEnd, splitOn_stripAfterLinks]
  simpa [lineCount, List.countP_eq_zero] using htrimmed

/-! ## Closed texts -/

/-- The lines of the text are ended, and behind them the passes over lines are where they began: no
fence is open, and the last line is no link line. -/
structure Closed (s : Text) : Prop where
  lines : ∃ lines, splitOn '\n' s = lines ++ [[]] ∧
    stateBehind false false lines = (false, false)
  steady : ∀ line ∈ splitOn '\n' s, hidesBehindReturn line = false

/-- Ended lines stay what they are, whatever follows. -/
theorem splitOn_append_of_ends {s : Text} {lines : List Text}
    (h : splitOn '\n' s = lines ++ [[]]) (t : Text) :
    splitOn '\n' (s ++ t) = lines ++ splitOn '\n' t := by
  obtain ⟨pieces, last, first, others, hs, ht, happend, -⟩ := List.exists_splitOn_append '\n' s t
  rw [← splitOn_eq_list] at hs ht happend
  obtain ⟨rfl, hlast⟩ := List.append_inj' (h.symm.trans hs) rfl
  obtain rfl : [] = last := List.singleton_inj.1 hlast
  rw [happend, List.nil_append, ht]

/-- The state is carried on from line to line. -/
theorem stateBehind_append (inFence strip : Bool) (lines others : List Text) :
    stateBehind inFence strip (lines ++ others) =
      stateBehind (stateBehind inFence strip lines).1 (stateBehind inFence strip lines).2
        others := by
  induction lines generalizing inFence strip with
  | nil => rfl
  | cons line lines ih => rw [List.cons_append, stateBehind, ih, stateBehind]

/-- Lines that seem no fences open and close none, be they stripped or not. -/
theorem stateBehind_of_not_seemsFence {lines : List Text}
    (h : ∀ line ∈ lines, seemsFence line = false) (inFence strip : Bool) :
    (stateBehind inFence strip lines).1 = inFence := by
  induction lines generalizing inFence strip with
  | nil => rfl
  | cons line lines ih =>
    obtain ⟨hline, hlines⟩ := List.forall_mem_cons.1 h
    have hshown : isFence (if strip then line.trimStart else line) = false := by
      cases strip with
      | true => exact hline
      | false => exact isFence_eq_false hline
    rw [stateBehind, ih hlines, hshown, Bool.xor_false]

/-- Within a fence, no line is stripped, up to the one that closes it. -/
theorem stateBehind_inFence {lines : List Text} (h : ∀ line ∈ lines, isFence line = false) :
    stateBehind true false lines = (true, false) := by
  induction lines with
  | nil => rfl
  | cons line lines ih =>
    obtain ⟨hline, hlines⟩ := List.forall_mem_cons.1 h
    rw [stateBehind, if_neg Bool.false_ne_true, hline]
    exact ih hlines

/-- Within a fence the lines are left alone. -/
theorem stripLinesAfterLinks_inFence {lines : List Text}
    (h : ∀ line ∈ lines, isFence line = false) : stripLinesAfterLinks true false lines = lines := by
  induction lines with
  | nil => rfl
  | cons line lines ih =>
    obtain ⟨hline, hlines⟩ := List.forall_mem_cons.1 h
    obtain ⟨shown, rfl, heq⟩ := stripLinesAfterLinks_cons true false line lines
    rw [heq, hline]
    exact congrArg (List.cons _) (ih hlines)

namespace Closed

variable {s t : Text}

theorem nil : Closed [] :=
  ⟨⟨[], rfl, rfl⟩, by simp [splitOn, hidesBehindReturn]⟩

/-- Closed texts stand one behind the other. -/
theorem append (hs : Closed s) (ht : Closed t) : Closed (s ++ t) := by
  obtain ⟨⟨lines, hlines, hstate⟩, hsteady⟩ := hs
  obtain ⟨⟨others, hothers, hstate'⟩, hsteady'⟩ := ht
  have hsplit := splitOn_append_of_ends hlines t
  refine ⟨⟨lines ++ others, ?_, ?_⟩, fun line hline => ?_⟩
  · rw [hsplit, hothers, List.append_assoc]
  · rw [stateBehind_append, hstate, hstate']
  · rw [hsplit] at hline
    rcases List.mem_append.1 hline with hline | hline
    · exact hsteady line (by rw [hlines]; exact List.mem_append_left _ hline)
    · exact hsteady' line hline

/-- A blank line behind steady lines closes a text. -/
theorem of_steady {lines : Text} (h : Steady (lines ++ ['\n', '\n'])) :
    Closed (lines ++ ['\n', '\n']) := by
  obtain ⟨hseems, hreturn⟩ := steady_iff.1 h
  have hsplit : splitOn '\n' (lines ++ ['\n', '\n']) = splitOn '\n' lines ++ [[]] ++ [[]] := by
    rw [splitOn_append_cons, List.append_assoc]
    rfl
  refine ⟨⟨_, hsplit, ?_⟩, hreturn⟩
  have hlines : ∀ line ∈ splitOn '\n' lines, seemsFence line = false := fun line hline =>
    hseems line (by rw [hsplit]; simp [hline])
  -- whether the last line is a link line or not, an empty one follows it
  rw [stateBehind_append, stateBehind_of_not_seemsFence hlines]
  cases (stateBehind false false (splitOn '\n' lines)).2 <;> rfl

/-- A block of preformatted lines, none of which seems a fence, and a blank line. -/
theorem of_preformatted {opening closing : Text} {body : List Text} (hopen : isFence opening)
    (hclose : isFence closing) (hsplit : splitOn '\n' s = opening :: body ++ [closing, []] ++ [[]])
    (hbody : ∀ line ∈ body, isUnsteady line = false) : Closed s := by
  have hline {line : Text} (hline : line ∈ body) :
      seemsFence line = false ∧ hidesBehindReturn line = false :=
    Bool.or_eq_false_iff.1 (hbody line hline)
  refine ⟨⟨_, hsplit, ?_⟩, fun line hmem => ?_⟩
  · -- the opening fence is closed by the other one, since the lines between them are none
    rw [List.cons_append, stateBehind, if_neg Bool.false_ne_true, hopen,
      startsLink_of_isFence hopen, stateBehind_append]
    show stateBehind (stateBehind true false body).1 (stateBehind true false body).2 _ = _
    rw [stateBehind_inFence fun line h => isFence_eq_false (hline h).1, stateBehind,
      if_neg Bool.false_ne_true, hclose]
    rfl
  · rw [hsplit] at hmem
    simp only [List.cons_append, List.mem_cons, List.mem_append, List.not_mem_nil, or_false] at hmem
    -- the fences and what is between and behind them
    rcases hmem with rfl | (hmem | rfl | rfl) | rfl
    · exact hidesBehindReturn_of_isFence hopen
    · exact (hline hmem).2
    · exact hidesBehindReturn_of_isFence hclose
    · rfl
    · rfl

/-- What is shown of a text behind a closed one does not depend on it. -/
theorem shownLines_passes_append (hs : Closed s)
    (ht : ∀ line ∈ splitOn '\n' t, hidesBehindReturn line = false) :
    (limitNewlines 0 (trimDocument (stripAfterLinks (s ++ t)))).shownLines =
      (limitNewlines 0 (trimDocument (stripAfterLinks s))).shownLines ++
        (limitNewlines 0 (trimDocument (stripAfterLinks t))).shownLines := by
  obtain ⟨⟨lines, hlines, hstate⟩, hsteady⟩ := hs
  have hsplit := splitOn_append_of_ends hlines t
  have hboth : ∀ line ∈ splitOn '\n' (s ++ t), hidesBehindReturn line = false := by
    intro line hline
    rw [hsplit] at hline
    rcases List.mem_append.1 hline with hline | hline
    · exact hsteady line (by rw [hlines]; exact List.mem_append_left _ hline)
    · exact ht line hline
  -- the empty line at the end of the first text is not shown
  have hend : stripLinesAfterLinks false false [[]] = [[]] := rfl
  rw [shownLines_passes hboth, shownLines_passes hsteady, shownLines_passes ht, hsplit, hlines,
    stripLinesAfterLinks_append, stripLinesAfterLinks_append, hstate, hend, shown_append,
    shown_append, shown_of_blank (by simp), List.append_nil]

end Closed

end Layout

end Gemtext
