import Gemtext.Standard.Library
import Gemtext.Proofs.Render.Callbacks
import Gemtext.Proofs.Text.Characters

/-!
# The numbers of footnotes

A footnote does not store its number: the number is worked out from the last one given out and from
how many footnotes wait, when the text of a link refers to it and again when its link line is
handed out.  That both numbers are the same is shown by keeping a log of the session.

Each answer adds its mentions to the log (`Shows`): the number that the text of a link ends with,
the number of a link line, or the link line that stands for a whole paragraph.  The mentions of one
call lead from the footnotes that waited before it to those that wait after it (`Balanced`), so at
every moment the references so far are the footnotes that were settled, in the same order and with
the same numbers, followed by those that wait (`footnotes_accounted`).
-/

namespace Gemtext

open Render

/-! ## The footnotes that wait -/

namespace Footnotes

/-- Every footnote that waits was given a number. -/
def Counted (f : Footnotes) : Prop :=
  f.pending.length ≤ f.counter

/-- The footnotes that wait, with their numbers. -/
def waiting (f : Footnotes) : List (Footnote × Nat) :=
  f.pending.zipIdx f.first

variable {f rest : Footnotes} {note : Footnote}

/-- The footnotes that wait have the last numbers that were given out. -/
theorem Counted.first_add_length (h : f.Counted) :
    f.first + f.pending.length = f.counter + 1 := by
  unfold Counted at h
  unfold first
  omega

/-- A footnote is withdrawn only if it is the only one that waits. -/
theorem demote?_eq_some :
    f.demote? = some (note, rest) ↔ f.pending = [note] ∧ rest = ⟨f.counter - 1, []⟩ := by
  unfold demote?
  split
  · rename_i only hpending
    rw [hpending]
    simp [eq_comm]
  · rename_i hpending
    constructor
    · intro hnone
      cases hnone
    · rintro ⟨hsingle, -⟩
      exact absurd hsingle (hpending note)

/-- Withdrawing a footnote takes back its number, and there is one to take back. -/
theorem Counted.counter_of_demote (h : f.Counted) (hdemote : f.demote? = some (note, rest)) :
    rest.counter + 1 = f.counter := by
  obtain ⟨hpending, rfl⟩ := demote?_eq_some.1 hdemote
  unfold Counted at h
  rw [hpending, List.length_singleton] at h
  show f.counter - 1 + 1 = f.counter
  omega

/-- A new footnote waits behind the others, with the next number. -/
theorem waiting_register (h : f.Counted) :
    (f.register note).waiting = f.waiting ++ [(note, f.counter + 1)] := by
  have hfirst : (f.register note).first = f.first := by
    simp only [first, register, List.length_append, List.length_singleton]
    omega
  rw [waiting, hfirst, register, List.zipIdx_append, h.first_add_length]
  rfl

/-- Those that wait are those that are handed out next, followed by those that are left. -/
theorem waiting_eq_append_drop (h : f.Counted) (limit : Nat) :
    f.waiting = (f.oldest limit).zipIdx f.first ++ (f.drop limit).waiting := by
  have hfirst : (f.drop limit).first = f.first + (f.oldest limit).length := by
    have := h.first_add_length
    simp only [first, drop, oldest, List.length_drop, List.length_take] at this ⊢
    omega
  rw [waiting, waiting, hfirst, oldest, drop, ← List.zipIdx_append, List.take_append_drop]

/-- A footnote that waits alone has the last number. -/
theorem waiting_of_demote (h : f.Counted) (hdemote : f.demote? = some (note, rest)) :
    f.waiting = [(note, f.counter)] := by
  obtain ⟨hpending, -⟩ := demote?_eq_some.1 hdemote
  have hfirst := h.first_add_length
  rw [hpending, List.length_singleton] at hfirst
  rw [waiting, hpending, Nat.add_right_cancel hfirst]
  rfl

end Footnotes

/-! ## Numbers in texts -/

/-- The number that the label of a link line begins with. -/
def LinkLine.number (line : LinkLine) : Nat :=
  Nat.ofDigitChars 10 ((line.label.getD []).takeWhile Char.isDigit) 0

/-- The number that stands before the last character of a text. -/
def referenceNumber (s : Text) : Nat :=
  Nat.ofDigitChars 10 ((s.reverse.drop 1).takeWhile Char.isDigit).reverse 0

/-- The text of a link that refers to a footnote. -/
def referenceText (note : Footnote) (number : Nat) : Text :=
  note.text ++ '[' :: Text.ofNat number ++ [']']

/-- The label of a link line shows the number of the footnote. -/
theorem number_numberedLine (number : Nat) (note : Footnote) :
    (numberedLine number note).number = number := by
  -- trimming takes nothing from the digits and the colon
  have htrim : Text.trim (Text.ofNat number ++ ':' :: ' ' :: note.url) =
      Text.ofNat number ++ ':' :: Text.trimEnd (' ' :: note.url) := by
    obtain ⟨d, rest, hdigits, hd⟩ := Text.exists_ofNat_eq_cons number
    have hstart : Text.trimStart (Text.ofNat number ++ ':' :: ' ' :: note.url) =
        Text.ofNat number ++ ':' :: ' ' :: note.url := by
      rw [hdigits, List.cons_append, Text.trimStart, List.dropWhile_cons_of_neg (by simp [hd])]
    rw [Text.trim, hstart, Text.trimEnd_append_cons (by decide)]
  have hlabel : (numberedLine number note).label =
      some (Text.ofNat number ++ ':' :: Text.trimEnd (' ' :: note.url)) := by
    simp [numberedLine, LinkLine.ofTrimmed, htrim]
  rw [LinkLine.number, hlabel, Option.getD_some,
    List.takeWhile_append_of_pos fun _ => Text.isDigit_of_mem_ofNat,
    List.takeWhile_cons_of_neg (by decide), List.append_nil]
  exact Nat.ofDigitChars_ten_toDigits

/-- The text of a link shows the number of the footnote. -/
theorem referenceNumber_referenceText (number : Nat) (note : Footnote) :
    referenceNumber (referenceText note number) = number := by
  have hrev : (referenceText note number).reverse =
      ']' :: ((Text.ofNat number).reverse ++ '[' :: note.text.reverse) := by
    simp [referenceText]
  have hdigits : ∀ c ∈ (Text.ofNat number).reverse, c.isDigit :=
    fun c hc => Text.isDigit_of_mem_ofNat (List.mem_reverse.1 hc)
  rw [referenceNumber, hrev, List.drop_succ_cons, List.drop_zero,
    List.takeWhile_append_of_pos hdigits, List.takeWhile_cons_of_neg (by decide), List.append_nil,
    List.reverse_reverse]
  exact Nat.ofDigitChars_ten_toDigits

/-! ## Mentions -/

/-- What an answer shows of a footnote with its number. -/
inductive Mention where
  /-- The text of a link ends with the number in brackets. -/
  | reference (note : Footnote) (number : Nat)
  /-- The label of a link line begins with the number. -/
  | line (note : Footnote) (number : Nat)
  /-- The link line of a paragraph that is nothing but the reference with this number. -/
  | alone (note : Footnote) (number : Nat)
  deriving DecidableEq, Repr

/-- The footnotes that the texts of links refer to, with their numbers. -/
def referred (log : List Mention) : List (Footnote × Nat) :=
  log.filterMap fun
    | .reference note number => some (note, number)
    | _ => none

/-- The footnotes whose link lines are handed out, with their numbers. -/
def settled (log : List Mention) : List (Footnote × Nat) :=
  log.filterMap fun
    | .reference .. => none
    | .line note number => some (note, number)
    | .alone note number => some (note, number)

@[simp]
theorem referred_append (log more : List Mention) :
    referred (log ++ more) = referred log ++ referred more :=
  List.filterMap_append

@[simp]
theorem settled_append (log more : List Mention) :
    settled (log ++ more) = settled log ++ settled more :=
  List.filterMap_append

/-- The link lines of footnotes with their numbers. -/
def numberedLines (notes : List (Footnote × Nat)) : Content :=
  notes.map fun (note, number) => .link (numberedLine number note)

/-- The mentions of footnotes by their numbered link lines. -/
def lineMentions (notes : List (Footnote × Nat)) : List Mention :=
  notes.map fun (note, number) => .line note number

/-- Link lines refer to nothing. -/
@[simp]
theorem referred_lineMentions (notes : List (Footnote × Nat)) :
    referred (lineMentions notes) = [] := by
  simp [referred, lineMentions, List.filterMap_map]

/-- Link lines settle their footnotes. -/
@[simp]
theorem settled_lineMentions (notes : List (Footnote × Nat)) :
    settled (lineMentions notes) = notes := by
  rw [settled, lineMentions, List.filterMap_map]
  exact List.filterMap_some

/-- The answer to a call in state `s` shows the given mentions, and no others. -/
inductive Shows (c : Conversion) (s : RenderState) :
    Callback → Except TableError Content → List Mention → Prop where
  /-- A link within the document is no footnote. -/
  | anchor {url content inner} (h : url.trim.head? = some '#') :
    Shows c s (.link url content inner)
      (.ok (if content.isBlank then Content.ofText url.trim else content)) []
  | reference {url content inner} (note : Footnote) (number : Nat)
      (hurl : note.url = c.resolveTarget url.trim)
      (htext : note.text = (linkLabel? url.trim content inner).getD note.url) :
    Shows c s (.link url content inner)
      (.ok (Content.ofText (referenceText note number) ++ content.linkLines))
      [.reference note number]
  | paragraph {content} : Shows c s (.paragraph content) (.ok (paragraphRegion content)) []
  | paragraphLines {content} (notes : List (Footnote × Nat)) :
    Shows c s (.paragraph content)
      (.ok (paragraphRegion content ++ paragraphRegion (numberedLines notes)))
      (lineMentions notes)
  /-- The paragraph is nothing but the reference. -/
  | alone {content} (note : Footnote) (number : Nat)
      (h : content.plainText.trim = referenceText note number) :
    Shows c s (.paragraph content)
      (.ok (paragraphRegion (.link (plainLine note) :: content.linkLines)))
      [.alone note number]
  | heading {content level} :
    Shows c s (.heading content level) (.ok (headingLine content level)) []
  | headingLines {content level} (notes : List (Footnote × Nat)) :
    Shows c s (.heading content level)
      (.ok (paragraphRegion (numberedLines notes) ++ headingLine content level))
      (lineMentions notes)
  | renderFootnotes (notes : List (Footnote × Nat)) :
    Shows c s .renderFootnotes (.ok (numberedLines notes)) (lineMentions notes)
  | finish (notes : List (Footnote × Nat)) :
    Shows c s .finish (.ok (numberedLines notes)) (lineMentions notes)
  /-- All other answers are the same whatever the footnotes are. -/
  | quiet {call answer} (hquiet : call.isQuiet)
      (hsame : ∀ footnotes, (call.run c { s with footnotes }).1 = answer) :
    Shows c s call answer []

/-! ## One call -/

/-- The mentions lead from the footnotes `f` to the footnotes `g`. -/
structure Balanced (f : Footnotes) (mentions : List Mention) (g : Footnotes) : Prop where
  counted : g.Counted
  account : f.waiting ++ referred mentions = settled mentions ++ g.waiting

namespace Balanced

variable {f g h : Footnotes} {log more : List Mention} {note : Footnote}

/-- Nothing is shown, and nothing changes. -/
theorem refl (hf : f.Counted) : Balanced f [] f :=
  ⟨hf, List.append_nil _⟩

/-- Mentions are balanced step by step. -/
theorem trans (hfg : Balanced f log g) (hgh : Balanced g more h) : Balanced f (log ++ more) h where
  counted := hgh.counted
  account := by
    rw [referred_append, settled_append, ← List.append_assoc, hfg.account, List.append_assoc,
      hgh.account, List.append_assoc]

/-- A new reference has the next number. -/
theorem register (hf : f.Counted) (note : Footnote) :
    Balanced f [.reference note (f.counter + 1)] (f.register note) where
  counted := by
    unfold Footnotes.Counted at hf ⊢
    simp only [Footnotes.register, List.length_append, List.length_singleton]
    omega
  account := (Footnotes.waiting_register hf).symm

/-- The link lines of the oldest footnotes, numbered from the first that waits. -/
theorem drop (hf : f.Counted) (limit : Nat) :
    Balanced f (lineMentions ((f.oldest limit).zipIdx f.first)) (f.drop limit) where
  counted := by
    unfold Footnotes.Counted at hf ⊢
    simp only [Footnotes.drop, List.length_drop]
    omega
  account := by
    rw [referred_lineMentions, settled_lineMentions, List.append_nil]
    exact Footnotes.waiting_eq_append_drop hf limit

/-- The link lines of all footnotes that wait. -/
theorem drain (hf : f.Counted) :
    Balanced f (lineMentions f.waiting) (f.drop f.pending.length) := by
  have hdrop := drop hf f.pending.length
  rwa [Footnotes.oldest, List.take_length] at hdrop

/-- The link line of the only footnote, whose number is given back. -/
theorem demote (hf : f.Counted) (hdemote : f.demote? = some (note, g)) :
    Balanced f [.alone note f.counter] g := by
  have hwaiting := Footnotes.waiting_of_demote hf hdemote
  obtain ⟨-, rfl⟩ := Footnotes.demote?_eq_some.1 hdemote
  constructor
  · exact Nat.zero_le _
  · rw [hwaiting]
    rfl

end Balanced

section

variable {c : Conversion} (hmode : c.links = .paragraph ∨ c.links = .atEnd)
variable {s : RenderState} (hs : s.footnotes.Counted)
include hmode

theorem usesFootnotes_of_numbering : c.links.usesFootnotes := by
  rcases hmode with h | h <;> rw [h] <;> rfl

/-- Footnotes are handed out with their numbers. -/
theorem flushFootnotes_eq (limit : Nat) (s : RenderState) :
    flushFootnotes c limit s =
      (numberedLines ((s.footnotes.oldest limit).zipIdx s.footnotes.first),
        { s with footnotes := s.footnotes.drop limit }) := by
  have hline : footnoteLine c.links = numberedLine := by
    rcases hmode with h | h <;> rw [h] <;> rfl
  rw [flushFootnotes, if_pos (usesFootnotes_of_numbering hmode), footnoteLines, hline]
  rfl

/-- All that wait are handed out. -/
theorem renderFootnotes_eq (s : RenderState) :
    renderFootnotes c s =
      (numberedLines s.footnotes.waiting,
        { s with footnotes := s.footnotes.drop s.footnotes.pending.length }) := by
  rw [renderFootnotes, flushFootnotes_eq hmode, Footnotes.oldest, List.take_length]
  rfl

/-- A paragraph is a single link if its text is the reference to the only footnote that waits. -/
theorem isSingleLink_eq_true {f : Footnotes} {text : Text} (h : isSingleLink c f text = true) :
    ∃ note, f.pending = [note] ∧ text = referenceText note f.counter := by
  unfold isSingleLink at h
  split at h
  · rename_i note hpending
    rcases hmode with hlinks | hlinks
    · rw [hlinks] at h
      exact ⟨note, hpending, beq_iff_eq.1 h⟩
    · rw [hlinks] at h
      cases h
  · cases h

include hs

/-- A link refers to a new footnote, unless it leads to a place within the document. -/
theorem balanced_link (url : Text) (content : Content) (inner : Text) :
    ∃ mentions, Shows c s (.link url content inner) (.ok (link c url content inner s).1) mentions ∧
      Balanced s.footnotes mentions (link c url content inner s).2.footnotes := by
  have hoff : c.links ≠ .off := by rcases hmode with h | h <;> simp [h]
  have hcopy : c.links ≠ .copy := by rcases hmode with h | h <;> simp [h]
  have huses := usesFootnotes_of_numbering hmode
  by_cases hanchor : url.trim.head? = some '#'
  · refine ⟨[], ?_, ?_⟩
    · simp only [link, hanchor, decide_true, Bool.true_or, if_true]
      exact .anchor hanchor
    · simp only [link, hanchor, decide_true, Bool.true_or, if_true]
      exact .refl hs
  · simp only [link, hanchor, hoff, hcopy, huses, decide_false, Bool.or_false, if_true, if_false,
      Bool.false_eq_true]
    exact ⟨_, .reference ⟨_, _⟩ (s.footnotes.counter + 1) rfl rfl, .register hs _⟩

/-- A paragraph becomes its link line, hands out all footnotes that wait, or leaves them. -/
theorem balanced_paragraph (content : Content) :
    ∃ mentions, Shows c s (.paragraph content) (.ok (paragraph c content s).1) mentions ∧
      Balanced s.footnotes mentions (paragraph c content s).2.footnotes := by
  cases hsingle : isSingleLink c s.footnotes content.plainText.trim with
  | true =>
    -- the text of the paragraph is what the link line stands for
    obtain ⟨note, hpending, htext⟩ := isSingleLink_eq_true hmode hsingle
    have hdemote := Footnotes.demote?_eq_some.2 ⟨hpending, rfl⟩
    simp only [paragraph, hsingle, if_true, hdemote]
    exact ⟨_, .alone note s.footnotes.counter htext, .demote hs hdemote⟩
  | false =>
    simp only [paragraph, hsingle, Bool.false_eq_true, if_false]
    split
    · rw [renderFootnotes_eq hmode]
      exact ⟨_, .paragraphLines _, .drain hs⟩
    · exact ⟨[], .paragraph, .refl hs⟩

/-- A heading hands out as many of the oldest footnotes as waited when it began, or none. -/
theorem balanced_heading (content : Content) (level : Nat) :
    ∃ mentions, Shows c s (.heading content level) (.ok (heading c content level s).1) mentions ∧
      Balanced s.footnotes mentions (heading c content level s).2.footnotes := by
  unfold heading
  split
  · rw [flushFootnotes_eq hmode]
    exact ⟨_, .headingLines _, .drop hs _⟩
  · exact ⟨[], .heading, .refl hs⟩

/-- Every call shows mentions that balance. -/
theorem balanced_run (call : Callback) :
    ∃ mentions, Shows c s call (call.run c s).1 mentions ∧
      Balanced s.footnotes mentions (call.run c s).2.footnotes := by
  cases hquiet : call.isQuiet with
  | true =>
    -- a quiet call shows the same whatever waits
    have hsame := fun footnotes => (Callback.run_of_isQuiet hquiet c s footnotes).1
    have hkept := (Callback.run_of_isQuiet hquiet c s s.footnotes).2
    rw [hkept]
    exact ⟨[], .quiet hquiet hsame, .refl hs⟩
  | false =>
    cases call with
    | link url content inner => exact balanced_link hmode hs url content inner
    | paragraph content => exact balanced_paragraph hmode hs content
    | heading content level => exact balanced_heading hmode hs content level
    | renderFootnotes =>
      have hrun : Callback.renderFootnotes.run c s =
          (.ok (renderFootnotes c s).1, (renderFootnotes c s).2) := rfl
      rw [hrun, renderFootnotes_eq hmode]
      exact ⟨_, .renderFootnotes _, .drain hs⟩
    | finish =>
      have hrun : Callback.finish.run c s =
          (.ok (renderFootnotes c s).1, (renderFootnotes c s).2) := rfl
      rw [hrun, renderFootnotes_eq hmode]
      exact ⟨_, .finish _, .drain hs⟩
    | _ => cases hquiet

end

/-! ## All calls -/

/-- The log of the calls that are made in turn from state `s`, with the mentions of each call. -/
inductive Logs (c : Conversion) : RenderState → List Callback → List (List Mention) → Prop where
  | nil {s} : Logs c s [] []
  | cons {s call calls mentions log} (hcall : Shows c s call (call.run c s).1 mentions)
    (hcalls : Logs c (call.run c s).2 calls log) : Logs c s (call :: calls) (mentions :: log)

/-- What a log says of the footnotes that it ends with. -/
structure Footnotes.Accounted (f : Footnotes) (log : List Mention) : Prop where
  /-- The number of the first footnote that waits is no subtraction below zero. -/
  first_add_length : f.first + f.pending.length = f.counter + 1
  /-- Neither is the counter after a footnote is withdrawn. -/
  counter_of_demote : ∀ note rest, f.demote? = some (note, rest) → rest.counter + 1 = f.counter
  /-- The references so far are those that are settled, and those that wait. -/
  referred_eq : referred log = settled log ++ f.waiting

section

variable {c : Conversion} (hmode : c.links = .paragraph ∨ c.links = .atEnd)
include hmode

/-- The log balances after every call. -/
theorem balanced_stateAfter {s : RenderState} (hs : s.footnotes.Counted) (calls : List Callback) :
    ∃ log, Logs c s calls log ∧
      ∀ n, Balanced s.footnotes (log.take n).flatten
        (stateAfter c s (calls.take n)).footnotes := by
  induction calls generalizing s with
  | nil =>
    refine ⟨[], .nil, fun n => ?_⟩
    rw [List.take_nil, List.take_nil, stateAfter_nil]
    exact .refl hs
  | cons call calls ih =>
    obtain ⟨mentions, hshows, hcall⟩ := balanced_run hmode hs call
    obtain ⟨log, hlogs, hcalls⟩ := ih hcall.counted
    refine ⟨mentions :: log, .cons hshows hlogs, fun n => ?_⟩
    -- a prefix of the calls is none of them, or the first and a prefix of the others
    cases n with
    | zero => exact .refl hs
    | succ n =>
      rw [List.take_succ_cons, List.take_succ_cons, List.flatten_cons, stateAfter_cons]
      exact hcall.trans (hcalls n)

/-- A session that numbers its footnotes keeps an account of them: there is a log of what its
answers show, such that after each call the references so far are the footnotes that were settled
and those that wait, with their numbers and in order.  Nothing is left to settle behind `finish`.
The number of a mention can be read off the text of the link and off the label of the link line. -/
theorem footnotes_accounted (calls : List Callback) :
    (∃ log, Logs c .initial calls log ∧
      (∀ n, (stateAfter c .initial (calls.take n)).footnotes.Accounted (log.take n).flatten) ∧
      ∀ n, calls[n]? = some .finish →
        referred (log.take (n + 1)).flatten = settled (log.take (n + 1)).flatten) ∧
      ∀ note number, referenceNumber (referenceText note number) = number ∧
        (numberedLine number note).number = number := by
  have hinitial : RenderState.initial.footnotes.Counted := Nat.le_refl 0
  obtain ⟨log, hlogs, hbalanced⟩ := balanced_stateAfter hmode hinitial calls
  have haccount (n : Nat) : referred (log.take n).flatten =
      settled (log.take n).flatten ++ (stateAfter c .initial (calls.take n)).footnotes.waiting :=
    (hbalanced n).account
  refine ⟨⟨log, hlogs, fun n => ?_, fun n hn => ?_⟩, fun note number => ⟨?_, ?_⟩⟩
  · have hcounted := (hbalanced n).counted
    exact ⟨hcounted.first_add_length, fun _ _ => hcounted.counter_of_demote, haccount n⟩
  · -- nothing waits any more
    have hpending : (stateAfter c .initial (calls.take (n + 1))).footnotes.pending = [] := by
      rw [stateAfter_take_succ c .initial hn]
      show (renderFootnotes c _).2.footnotes.pending = []
      rw [renderFootnotes_eq hmode]
      exact List.drop_length
    rw [haccount, Footnotes.waiting, hpending, List.zipIdx_nil, List.append_nil]
  · exact referenceNumber_referenceText number note
  · exact number_numberedLine number note

end

/-- A paragraph that is one link gives its number back, a heading hands out only what waited before
it, and the rest comes at the end. -/
theorem footnotes_accounted_heading :
    let c := { Conversion.standard with links := .paragraph }
    let calls := [
      .link ['a'] (Content.ofText ['x']) ['x'], .paragraph (Content.ofText "x[1]".toList),
      .link ['b'] (Content.ofText ['y']) ['y'], .enterHeading,
      .link ['c'] (Content.ofText ['z']) ['z'], .heading (Content.ofText "z[2]".toList) 1, .finish]
    (stateAfter c .initial (calls.take 2)).footnotes = ⟨0, []⟩ ∧
      (stateAfter c .initial (calls.take 6)).footnotes = ⟨2, [⟨['c'], ['z']⟩]⟩ ∧
      (∃ log, Logs c .initial calls log ∧
        (∀ n, (stateAfter c .initial (calls.take n)).footnotes.Accounted (log.take n).flatten) ∧
        ∀ n, calls[n]? = some .finish →
          referred (log.take (n + 1)).flatten = settled (log.take (n + 1)).flatten) ∧
        ∀ note number, referenceNumber (referenceText note number) = number ∧
          (numberedLine number note).number = number :=
  ⟨by decide, by decide, footnotes_accounted (.inl rfl) _⟩

end Gemtext
