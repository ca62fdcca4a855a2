import Gemtext.Standard.Library
import Gemtext.Proofs.Layout.Closed
import Gemtext.Proofs.Layout.Relayout
import Gemtext.Proofs.Text.Characters
import Gemtext.Render.Gemtext

/-!
# Code blocks as documents

A code block is laid out between two fences, behind the line that opens it with its tag.  The
passes over lines meet it as a whole (`splitOn_layout_preformatted`): the stripping pass leaves its
lines alone as long as none of them closes the fence, and of the empty lines that follow one another
only the first stays.

So a code block is its code, but for such empty lines (`layout_codeBlock`), as long as no line of
the code is a fence.  Such a line closes the block: whether there is one can be read off the fences
of the document (`fences_layout_codeBlock`).
-/

namespace Gemtext

open Text

namespace Layout

/-! ## Fences among lines -/

/-- Stripping keeps every fence, and may uncover indented ones. -/
theorem countP_isFence_stripLinesAfterLinks (inFence strip : Bool) (lines : List Text) :
    lines.countP isFence ≤ (stripLinesAfterLinks inFence strip lines).countP isFence ∧
      (stripLinesAfterLinks inFence strip lines).countP isFence ≤ lines.countP seemsFence := by
  induction lines generalizing inFence strip with
  | nil => exact ⟨le_rfl, le_rfl⟩
  | cons line rest ih =>
    obtain ⟨shown, hshown, heq⟩ := stripLinesAfterLinks_cons inFence strip line rest
    obtain ⟨hkept, huncovered⟩ := ih (inFence ^^ isFence shown) (!inFence && startsLink shown)
    -- stripping may uncover a fence, but covers none
    have hline : (isFence line → isFence shown) ∧ (isFence shown → seemsFence line) := by
      cases strip with
      | false =>
        obtain rfl : shown = line := hshown
        exact ⟨id, seemsFence_of_isFence⟩
      | true =>
        obtain rfl : shown = line.trimStart := hshown
        exact ⟨fun h => by rwa [trimStart_of_isFence h], id⟩
    rw [heq, List.countP_cons, List.countP_cons, List.countP_cons]
    refine ⟨Nat.add_le_add hkept ?_, Nat.add_le_add huncovered ?_⟩
    · split <;> simp_all
    · split <;> simp_all

/-- Behind some lines the state of the fence is that before them exactly if they hold an even number
of fences. -/
theorem fenceAfter_eq_self_iff (inFence : Bool) (lines : List Text) :
    fenceAfter inFence lines = inFence ↔ Even (lines.countP isFence) := by
  induction lines generalizing inFence with
  | nil => simp [fenceAfter]
  | cons line rest ih =>
    rw [fenceAfter, List.foldl_cons, ← fenceAfter, List.countP_cons]
    cases hline : isFence line with
    | false => simpa using ih inFence
    | true =>
      have hflip := ih (!inFence)
      rw [Bool.xor_true, if_pos rfl, Nat.even_add_one, ← hflip]
      cases inFence <;> cases fenceAfter _ rest <;> decide

/-- There are no such lines if no line is one. -/
theorem lineCount_eq_zero_iff {p : Text → Bool} {s : Text} :
    lineCount p s = 0 ↔ ∀ line ∈ splitOn '\n' s, p line = false := by
  simp [lineCount, List.countP_eq_zero]

/-- Empty lines at the end count nothing. -/
theorem lineCount_append_newlines {p : Text → Bool} (hp : IgnoresEnd p) (s : Text)
    (newlines : Nat) : lineCount p (s ++ List.replicate newlines '\n') = lineCount p s := by
  refine lineCount_append_blank hp (fun c hc => ?_) s
  rw [List.eq_of_mem_replicate hc]
  decide

end Layout

open Content Layout

namespace Render

/-! ## Preformatted blocks -/

/-- The text of a block with the given tag, without the blank line behind it. -/
def fenced (tag body : Text) : Text :=
  codeFence ++ tag ++ '\n' :: body ++ '\n' :: codeFence

/-- The line that opens a block with the given tag. -/
def openingLine (tag : Text) : Text :=
  codeFence ++ (Text.splitOn '\n' tag).headD []

/-- The lines of a block behind the one that opens it: those of the tag, if it has more than one,
and those of the body. -/
def innerLines (tag body : Text) : List Text :=
  (Text.splitOn '\n' tag).tail ++ Text.splitOn '\n' body

theorem isFence_openingLine (tag : Text) : isFence (openingLine tag) :=
  isFence_append (show isFence codeFence from rfl) _

/-- The opening line ends where the tag has its first newline. -/
theorem newline_not_mem_openingLine (tag : Text) : '\n' ∉ openingLine tag := by
  obtain ⟨first, others, htag⟩ := List.exists_cons_of_ne_nil (splitOn_ne_nil '\n' tag)
  have hfirst : '\n' ∉ first := fun h =>
    (mem_and_ne_of_mem_splitOn (htag ▸ List.mem_cons_self) h).2 rfl
  simp [openingLine, htag, codeFence, hfirst]

/-- The lines inside are lines. -/
theorem newline_not_mem_innerLines {tag body line : Text} (h : line ∈ innerLines tag body) :
    '\n' ∉ line := by
  intro hn
  rcases List.mem_append.1 h with h | h
  · exact (mem_and_ne_of_mem_splitOn (List.mem_of_mem_tail h) hn).2 rfl
  · exact (mem_and_ne_of_mem_splitOn h hn).2 rfl

/-- The lines of a block. -/
theorem splitOn_fenced (tag body : Text) :
    Text.splitOn '\n' (fenced tag body) =
      openingLine tag :: innerLines tag body ++ [codeFence] := by
  obtain ⟨first, others, htag⟩ := List.exists_cons_of_ne_nil (splitOn_ne_nil '\n' tag)
  have hopen : Text.splitOn '\n' (codeFence ++ tag) = (codeFence ++ first) :: others := by
    simp [Text.splitOn, htag, codeFence]
  rw [fenced, List.append_assoc, List.cons_append, Text.splitOn_append_cons,
    Text.splitOn_append_cons, hopen, openingLine, innerLines, htag]
  simp [Text.splitOn, codeFence]

/-- The lines of a block as the stripping pass leaves them. -/
def strippedLines (tag body : Text) : List Text :=
  openingLine tag :: stripLinesAfterLinks true false (innerLines tag body) ++ [codeFence]

/-- What the stripping pass makes of a block: the first line opens a fence, and the last one stays,
be it stripped or not. -/
theorem stripAfterLinks_fenced (tag body : Text) :
    stripAfterLinks (fenced tag body) = Text.joinWith ['\n'] (strippedLines tag body) := by
  have hclose (inFence strip : Bool) :
      stripLinesAfterLinks inFence strip [codeFence] = [codeFence] := by
    cases inFence <;> cases strip <;> rfl
  rw [stripAfterLinks, splitOn_fenced, List.cons_append, stripLinesAfterLinks,
    if_neg Bool.false_ne_true, if_pos (isFence_openingLine tag), Bool.not_false,
    stripLinesAfterLinks_append, hclose]
  rfl

/-- The document that a block makes. -/
theorem layout_preformatted (tag body : Text) :
    layout (preformatted tag body) [] =
      limitNewlines 0 (Text.joinWith ['\n'] (strippedLines tag body)) := by
  -- the block begins and ends with a fence, so that nothing is trimmed but the blank line
  have hframed : Framed (Text.joinWith ['\n'] (strippedLines tag body)) := by
    rw [strippedLines]
    constructor
    · rw [List.cons_append, Text.joinWith_cons (by simp), List.append_assoc]
      exact ⟨'`', _, rfl, by decide⟩
    · rw [joinWith_append (by simp) (by simp)]
      exact ⟨_ ++ ['`', '`'], '`', (List.append_assoc _ ['`', '`'] ['`']).symm, by decide⟩
  have hblock : preformatted tag body = ofText (fenced tag body ++ ['\n', '\n']) := rfl
  rw [hblock, layout_ofText_append_blank (by simp [isBlank]), layout_ofText, stripAfterLinks_fenced,
    trimDocument_of_framed hframed]

/-- Stripped lines are lines. -/
theorem splitOn_strippedLines (tag body : Text) :
    Text.splitOn '\n' (Text.joinWith ['\n'] (strippedLines tag body)) =
      strippedLines tag body := by
  refine splitOn_joinWith (by simp [strippedLines]) fun line hline => ?_
  rcases List.mem_append.1 hline with hline | hline
  · rcases List.mem_cons.1 hline with rfl | hline
    · exact newline_not_mem_openingLine tag
    · intro hn
      obtain ⟨before, hbefore, hn⟩ := mem_of_mem_stripLinesAfterLinks hline hn
      exact newline_not_mem_innerLines hbefore hn
  · rw [List.mem_singleton.1 hline]
    decide

/-- Its lines are those that the stripping pass leaves, without the empty lines that follow an empty
line. -/
theorem splitOn_layout_preformatted (tag body : Text) :
    Text.splitOn '\n' (layout (preformatted tag body) []) =
      (strippedLines tag body).destutter Apart := by
  rw [layout_preformatted, splitOn_limitNewlines, splitOn_strippedLines]
  · rw [splitOn_strippedLines]
    simp [strippedLines, openingLine, codeFence]
  · rw [splitOn_strippedLines, strippedLines, List.getLast?_concat]
    decide

/-! ## Code blocks -/

/-- The tag of a code block: the info text, trimmed, or that of the options if it is blank. -/
def blockTag (c : Conversion) (info : Option Text) : Text :=
  match info with
  | none => c.codeTag
  | some text => if text.trim = [] then c.codeTag else text.trim

/-- A code block is preformatted, with its tag. -/
theorem codeBlock_eq (c : Conversion) (code : Text) (info : Option Text) :
    codeBlock c code info =
      preformatted (blockTag c info) (dropFinalNewline (dropFinalNewline code)) := by
  rw [codeBlock]
  cases info with
  | none => rfl
  | some text => by_cases h : text.trim = [] <;> simp [blockTag, h, Option.filter]

/-- A newline at the end goes, and nothing else does. -/
theorem dropFinalNewline_cases (s : Text) :
    s = dropFinalNewline s ++ ['\n'] ∨ dropFinalNewline s = s ∧ ∀ start, s ≠ start ++ ['\n'] := by
  rw [dropFinalNewline, dropEnd?]
  split
  · rename_i hsuffix
    obtain ⟨start, rfl⟩ := List.isSuffixOf_iff_suffix.1 hsuffix
    exact .inl (by simp)
  · rename_i hnone
    refine .inr ⟨rfl, fun start h => hnone ?_⟩
    exact List.isSuffixOf_iff_suffix.2 ⟨start, h.symm⟩

/-- Up to two newlines at the end of the code go, and no more than there are. -/
theorem exists_dropFinalNewlines (code : Text) :
    ∃ newlines, code = dropFinalNewline (dropFinalNewline code) ++ List.replicate newlines '\n' ∧
      newlines ≤ 2 ∧
        (newlines < 2 → ∀ start, dropFinalNewline (dropFinalNewline code) ≠ start ++ ['\n']) := by
  -- a newline is dropped, or there is none
  rcases dropFinalNewline_cases code with hone | ⟨hone, hnone⟩
  · rcases dropFinalNewline_cases (dropFinalNewline code) with htwo | ⟨htwo, hnone⟩
    · -- what is left may end with further newlines
      refine ⟨2, ?_, le_rfl, fun h => absurd h (lt_irrefl 2)⟩
      conv => lhs; rw [hone, htwo]
      simp
    · refine ⟨1, ?_, by decide, fun _ => by rwa [htwo]⟩
      conv => lhs; rw [hone]
      rw [htwo]
      rfl
  · refine ⟨0, ?_, by decide, fun _ => ?_⟩
    · rw [hone, hone, List.replicate_zero, List.append_nil]
    · rwa [hone, hone]

/-- No line of the tag but the first is a fence if none of that in the options is. -/
theorem isFence_of_mem_blockTag {c : Conversion} {info : Option Text}
    (hinfo : ∀ text ∈ info, '\n' ∉ text)
    (htag : ∀ line ∈ (Text.splitOn '\n' c.codeTag).tail, isFence line = false) :
    ∀ line ∈ (Text.splitOn '\n' (blockTag c info)).tail, isFence line = false := by
  cases info with
  | none => exact htag
  | some text =>
    rw [blockTag]
    split
    · exact htag
    · have hn : '\n' ∉ text.trim := fun h => hinfo text rfl (mem_of_mem_trim h)
      simp [splitOn_of_not_mem hn]

/-- A code block without a fence in its code and behind its first line of its tag is, between its
fences, its code without up to two newlines at the end: all of it if no three newlines stand in a
row, and else without the empty lines that follow an empty line. -/
theorem layout_codeBlock (c : Conversion) (code : Text) (info : Option Text)
    (hcode : ∀ line ∈ Text.splitOn '\n' code, isFence line = false)
    (hinfo : ∀ text ∈ info, '\n' ∉ text)
    (htag : ∀ line ∈ (Text.splitOn '\n' c.codeTag).tail, isFence line = false) :
    ∃ body newlines, code = body ++ List.replicate newlines '\n' ∧ newlines ≤ 2 ∧
      (newlines < 2 → ∀ start, body ≠ start ++ ['\n']) ∧
      (layout (codeBlock c code info) [] = fenced (blockTag c info) body ↔
        ¬threeNewlines <:+: fenced (blockTag c info) body) ∧
      Text.splitOn '\n' (layout (codeBlock c code info) []) =
        (Text.splitOn '\n' (fenced (blockTag c info) body)).destutter Apart := by
  obtain ⟨newlines, hbody, htwo, hall⟩ := exists_dropFinalNewlines code
  refine ⟨dropFinalNewline (dropFinalNewline code), newlines, hbody, htwo, hall, ?_⟩
  rw [codeBlock_eq]
  generalize dropFinalNewline (dropFinalNewline code) = body at hbody
  -- what the code has behind the body is empty lines, which are no fences
  have hlines : ∀ line ∈ Text.splitOn '\n' body, isFence line = false := by
    rw [← lineCount_eq_zero_iff] at hcode ⊢
    rwa [hbody, lineCount_append_newlines ignoresEnd_isFence] at hcode
  have hstrip : strippedLines (blockTag c info) body =
      Text.splitOn '\n' (fenced (blockTag c info) body) := by
    rw [splitOn_fenced, strippedLines, stripLinesAfterLinks_inFence]
    exact fun line hline => (List.mem_append.1 hline).elim
      (isFence_of_mem_blockTag hinfo htag line) (hlines line)
  refine ⟨?_, ?_⟩
  · rw [layout_preformatted, hstrip, joinWith_splitOn, limitNewlines_eq_self_iff]
  · rw [splitOn_layout_preformatted, hstrip]

/-- A link line and an indented line come through, and one of three newlines at the end stays. -/
theorem layout_codeBlock_indented :
    (∀ line ∈ Text.splitOn '\n' "=> a\n  b\n\n\n".toList, isFence line = false) ∧
      (∀ text ∈ some " rust ".toList, '\n' ∉ text) ∧
      (∀ line ∈ (Text.splitOn '\n' Conversion.standard.codeTag).tail, isFence line = false) ∧
      layout (codeBlock .standard "=> a\n  b\n\n\n".toList (some " rust ".toList)) [] =
        "```rust\n=> a\n  b\n\n```".toList ∧
      ∃ body newlines, "=> a\n  b\n\n\n".toList = body ++ List.replicate newlines '\n' ∧
        newlines ≤ 2 ∧ (newlines < 2 → ∀ start, body ≠ start ++ ['\n']) ∧
        (layout (codeBlock .standard "=> a\n  b\n\n\n".toList (some " rust ".toList)) [] =
            fenced (blockTag .standard (some " rust ".toList)) body ↔
          ¬threeNewlines <:+: fenced (blockTag .standard (some " rust ".toList)) body) ∧
        Text.splitOn '\n'
            (layout (codeBlock .standard "=> a\n  b\n\n\n".toList (some " rust ".toList)) []) =
          (Text.splitOn '\n' (fenced (blockTag .standard (some " rust ".toList)) body)).destutter
            Apart := by
  -- the line behind the link line keeps its indent, since it stands between fences
  have hcode : ∀ line ∈ Text.splitOn '\n' "=> a\n  b\n\n\n".toList, isFence line = false := by
    decide
  have hinfo : ∀ text ∈ some " rust ".toList, '\n' ∉ text := by decide
  have htag :
      ∀ line ∈ (Text.splitOn '\n' Conversion.standard.codeTag).tail, isFence line = false := by
    decide
  exact ⟨hcode, hinfo, htag, by decide, layout_codeBlock .standard _ _ hcode hinfo htag⟩

/-- Code that holds two empty lines in a row is changed, and so is indented code behind a tag that
closes the fence and ends with a link line. -/
theorem squeezes_code_lines :
    ((∀ line ∈ Text.splitOn '\n' "a\n\n\nb\n".toList, isFence line = false) ∧
        layout (codeBlock .standard "a\n\n\nb\n".toList none) [] = "```\na\n\nb\n```".toList ∧
        layout (codeBlock .standard "a\n\n\nb\n".toList none) [] ≠
          "```\na\n\n\nb\n```".toList) ∧
      isFence "  a".toList = false ∧
      layout (codeBlock { Conversion.standard with codeTag := "t\n```\n=> u".toList } "  a".toList
          none) [] = "```t\n```\n=> u\na\n```".toList := by
  decide

/-! ## Fences within a code block -/

/-- The first and the last line of a block are fences, and those in between are the ones that the
stripping pass leaves. -/
theorem exists_splitOn_layout_preformatted (tag body : Text) :
    ∃ inner, Text.splitOn '\n' (layout (preformatted tag body) []) =
        openingLine tag :: inner ++ [codeFence] ∧
      lineCount isFence (layout (preformatted tag body) []) = inner.countP isFence + 2 ∧
      inner.countP isFence =
        (stripLinesAfterLinks true false (innerLines tag body)).countP isFence := by
  obtain ⟨inner, hinner⟩ := exists_destutter'_eq_cons (openingLine tag)
    (stripLinesAfterLinks true false (innerLines tag body))
  have hlines := splitOn_layout_preformatted tag body
  rw [strippedLines, List.cons_append, List.destutter_cons', destutter'_concat (by decide),
    hinner] at hlines
  have hcount (lines : List Text) :
      (openingLine tag :: lines ++ [codeFence]).countP isFence = lines.countP isFence + 2 := by
    rw [List.countP_append, List.countP_cons_of_pos (isFence_openingLine tag)]
    rfl
  have hall : lineCount isFence (layout (preformatted tag body) []) = inner.countP isFence + 2 := by
    rw [lineCount, hlines, hcount]
  refine ⟨inner, hlines, hall, ?_⟩
  -- taking empty lines away takes no fence away
  rw [layout_preformatted, lineCount_limitNewlines ignoresEnd_isFence, lineCount,
    splitOn_strippedLines, strippedLines, hcount] at hall
  omega

/-- Between its first and its last line, which are fences, a code block has the fences of its code,
and perhaps indented ones that follow a link line behind such a fence.  So the block is closed by
its last line, and by no other one, exactly if no line of its code is a fence.  Behind the block the
state of the fence is that before it exactly if the fences in between are even in number. -/
theorem fences_layout_codeBlock (c : Conversion) (code : Text) (info : Option Text)
    (hinfo : ∀ text ∈ info, '\n' ∉ text)
    (htag : ∀ line ∈ (Text.splitOn '\n' c.codeTag).tail, isFence line = false) :
    ∃ inner, Text.splitOn '\n' (layout (codeBlock c code info) []) =
        openingLine (blockTag c info) :: inner ++ [codeFence] ∧
      lineCount isFence (layout (codeBlock c code info) []) = inner.countP isFence + 2 ∧
      (lineCount isFence (layout (codeBlock c code info) []) = 2 ↔
        ∀ line ∈ Text.splitOn '\n' code, isFence line = false) ∧
      lineCount isFence code ≤ inner.countP isFence ∧
      inner.countP isFence ≤ lineCount seemsFence code ∧
      ∀ inFence, fenceAfter inFence (Text.splitOn '\n' (layout (codeBlock c code info) [])) =
        inFence ↔ Even (inner.countP isFence) := by
  obtain ⟨newlines, hbody, -, -⟩ := exists_dropFinalNewlines code
  rw [codeBlock_eq]
  generalize dropFinalNewline (dropFinalNewline code) = body at hbody
  have hcode {p : Text → Bool} (hp : IgnoresEnd p) : lineCount p code = lineCount p body := by
    rw [hbody, lineCount_append_newlines hp]
  have htag' := isFence_of_mem_blockTag hinfo htag
  generalize blockTag c info = tag at htag'
  -- the lines of the tag stand in the fence that the first of them opens
  have hstrip : (stripLinesAfterLinks true false (innerLines tag body)).countP isFence =
      (stripLinesAfterLinks true false (Text.splitOn '\n' body)).countP isFence := by
    rw [innerLines, stripLinesAfterLinks_append, stateBehind_inFence htag', List.countP_append,
      stripLinesAfterLinks_inFence htag',
      List.countP_eq_zero.2 fun line hline => by rw [htag' line hline]; decide, Nat.zero_add]
  obtain ⟨inner, hlines, hall, hinner⟩ := exists_splitOn_layout_preformatted tag body
  obtain ⟨hkept, huncovered⟩ := countP_isFence_stripLinesAfterLinks true false
    (Text.splitOn '\n' body)
  rw [← hstrip, ← hinner, ← lineCount] at hkept huncovered
  refine ⟨inner, hlines, hall, ?_, ?_, ?_, fun inFence => ?_⟩
  · rw [← lineCount_eq_zero_iff, hall, hcode ignoresEnd_isFence]
    refine ⟨fun h => by omega, fun h => ?_⟩
    rw [hinner, hstrip, stripLinesAfterLinks_inFence (lineCount_eq_zero_iff.1 h), ← lineCount, h]
  · rwa [hcode ignoresEnd_isFence]
  · rwa [hcode ignoresEnd_seemsFence]
  · -- the first and the last line are two fences more
    rw [fenceAfter_eq_self_iff, ← lineCount, hall, Nat.even_add]
    simp

/-- Behind a fence of the code, a link line uncovers another one. -/
theorem fences_layout_codeBlock_uncovered :
    (∀ text ∈ (none : Option Text), '\n' ∉ text) ∧
      (∀ line ∈ (Text.splitOn '\n' Conversion.standard.codeTag).tail, isFence line = false) ∧
      layout (codeBlock .standard "```\n=> u\n  ```\n".toList none) [] =
        "```\n```\n=> u\n```\n```".toList ∧
      ∃ inner,
        Text.splitOn '\n' (layout (codeBlock .standard "```\n=> u\n  ```\n".toList none) []) =
          openingLine (blockTag .standard none) :: inner ++ [codeFence] ∧
        lineCount isFence (layout (codeBlock .standard "```\n=> u\n  ```\n".toList none) []) =
          inner.countP isFence + 2 ∧
        (lineCount isFence (layout (codeBlock .standard "```\n=> u\n  ```\n".toList none) []) = 2 ↔
          ∀ line ∈ Text.splitOn '\n' "```\n=> u\n  ```\n".toList, isFence line = false) ∧
        lineCount isFence "```\n=> u\n  ```\n".toList ≤ inner.countP isFence ∧
        inner.countP isFence ≤ lineCount seemsFence "```\n=> u\n  ```\n".toList ∧
        ∀ inFence, fenceAfter inFence (Text.splitOn '\n'
          (layout (codeBlock .standard "```\n=> u\n  ```\n".toList none) [])) = inFence ↔
            Even (inner.countP isFence) := by
  -- the line that seems a fence becomes one, behind the link line
  have hinfo : ∀ text ∈ (none : Option Text), '\n' ∉ text := nofun
  have htag :
      ∀ line ∈ (Text.splitOn '\n' Conversion.standard.codeTag).tail, isFence line = false := by
    decide
  exact ⟨hinfo, htag, by decide, fences_layout_codeBlock .standard _ none hinfo htag⟩

/-- A line of the code that is a fence closes the block, so what follows the block is
preformatted. -/
theorem closes_own_fence :
    layout (codeBlock .standard "```\n".toList none) [] = "```\n```\n```".toList ∧
      lineCount isFence (layout (codeBlock .standard "```\n".toList none) []) = 3 ∧
      fenceAfter false
        (Text.splitOn '\n' (layout (codeBlock .standard "```\n".toList none) [])) = true := by
  decide

end Render

end Gemtext
