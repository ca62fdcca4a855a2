import Gemtext.Standard.Library
import Gemtext.Proofs.Content.Prose
import Gemtext.Proofs.Render.HeadingScopes
import Gemtext.Proofs.Render.Headings
import Gemtext.Proofs.Text.CodeSpans

/-!
# The words of a link's label

The label of a link is made of the characters of its content.  A hard break is no character, so
where nothing but hard breaks stands between two words, the label runs them together
(`Content.Glues`).  The bare text below the link, which is the label where the content shows
nothing, has a space for every line break.  Without markup, the label has the words of the bare text
unless the content glues some (`linkLabel?_eq_iff`).
-/

namespace Gemtext

open Text

namespace Content

variable {c : Content}

/-! ## Words that are glued -/

/-- The content begins with hard breaks, and a visible character follows. -/
def OpensWord (c : Content) : Prop :=
  ∃ n y after, c = List.replicate (n + 1) .hardBreak ++ .char y :: after ∧ Gemtext.isBlank y = false

/-- Somewhere nothing but hard breaks stands between two visible characters. -/
def Glues (c : Content) : Prop :=
  ∃ before x after, c = before ++ .char x :: after ∧ Gemtext.isBlank x = false ∧ OpensWord after

theorem not_glues_nil : ¬Glues [] := by
  rintro ⟨before, x, after, h, -⟩
  simp at h

/-- Words are glued at the first atom or behind it. -/
theorem glues_cons_iff {atom : Atom} :
    Glues (atom :: c) ↔
      (∃ x, atom = .char x ∧ Gemtext.isBlank x = false ∧ OpensWord c) ∨ Glues c := by
  constructor
  · rintro ⟨before, x, after, h, hx, hafter⟩
    cases before with
    | nil =>
      obtain ⟨rfl, rfl⟩ := List.cons.inj h
      exact .inl ⟨x, rfl, hx, hafter⟩
    | cons first before =>
      obtain ⟨rfl, rfl⟩ := List.cons.inj h
      exact .inr ⟨before, x, after, rfl, hx, hafter⟩
  · rintro (⟨x, rfl, hx, hafter⟩ | ⟨before, x, after, rfl, hx, hafter⟩)
    · exact ⟨[], x, c, rfl, hx, hafter⟩
    · exact ⟨atom :: before, x, after, rfl, hx, hafter⟩

theorem glues_hardBreak_cons : Glues (.hardBreak :: c) ↔ Glues c := by
  simp [glues_cons_iff]

theorem glues_blank_cons {x : Char} (hx : Gemtext.isBlank x) :
    Glues (.char x :: c) ↔ Glues c := by
  simp [glues_cons_iff, hx]

/-- Hard breaks in front glue nothing. -/
theorem glues_breaks_append (n : Nat) :
    Glues (List.replicate n .hardBreak ++ c) ↔ Glues c := by
  induction n with
  | zero => exact Iff.rfl
  | succ n ih => rw [List.replicate_succ, List.cons_append, glues_hardBreak_cons, ih]

/-- Hard breaks alone open no word. -/
theorem not_opensWord_breaks (n : Nat) : ¬OpensWord (List.replicate n .hardBreak) := by
  rintro ⟨m, y, after, h, -⟩
  have hy : .char y ∈ List.replicate n Atom.hardBreak := by simp [h]
  cases List.eq_of_mem_replicate hy

/-- A character behind hard breaks opens a word if it is visible. -/
theorem opensWord_breaks_append_iff {y : Char} (n : Nat) :
    OpensWord (List.replicate n .hardBreak ++ .char y :: c) ↔
      0 < n ∧ Gemtext.isBlank y = false := by
  constructor
  · rintro ⟨m, y', after, h, hy'⟩
    -- both sides begin with a hard break, which is taken away
    induction n generalizing m with
    | zero => cases h
    | succ n ih =>
      have htail := (List.cons.inj h).2
      cases m with
      | zero =>
        cases n with
        | zero => exact ⟨Nat.one_pos, by rwa [Atom.char.inj (List.cons.inj htail).1]⟩
        | succ n => cases htail
      | succ m => exact ⟨Nat.succ_pos n, (ih m htail).2⟩
  · rintro ⟨hn, hy⟩
    obtain ⟨m, rfl⟩ := Nat.exists_eq_add_one.2 hn
    exact ⟨m, y, c, rfl, hy⟩

/-- A blank character behind hard breaks ends the word in front of them. -/
theorem glues_behind_blank {x y : Char} (hy : Gemtext.isBlank y) (n : Nat) :
    Glues (.char x :: (List.replicate n .hardBreak ++ .char y :: c)) ↔ Glues c := by
  rw [glues_cons_iff, glues_breaks_append, glues_blank_cons hy, opensWord_breaks_append_iff]
  simp [hy]

/-- A visible one is glued to it. -/
theorem glues_behind_visible {x y : Char} (hx : Gemtext.isBlank x = false)
    (hy : Gemtext.isBlank y = false) (n : Nat) :
    Glues (.char x :: (List.replicate n .hardBreak ++ .char y :: c)) ↔
      0 < n ∨ Glues (.char y :: c) := by
  rw [glues_cons_iff, glues_breaks_append, opensWord_breaks_append_iff]
  simp [hx, hy]

/-! ## Words with and without hard breaks -/

section

variable {x : Char} {s t : Text}

/-- Newlines are blank. -/
theorem isBlank_of_mem_newlines {n : Nat} : ∀ d ∈ List.replicate n '\n', Gemtext.isBlank d := by
  intro d hd
  rw [List.eq_of_mem_replicate hd]
  rfl

/-- Behind a visible character, it does not matter which blank characters part the words from it. -/
theorem collapseBehind_blank_cons_iff {y : Char} (hx : Gemtext.isBlank x)
    (hy : Gemtext.isBlank y) (n : Nat) :
    collapseBehind (x :: s) = collapseBehind (List.replicate n '\n' ++ y :: t) ↔
      s.collapseBlank = t.collapseBlank := by
  have hblanks : ∀ d ∈ List.replicate n '\n' ++ [y], Gemtext.isBlank d :=
    List.forall_mem_append.2 ⟨isBlank_of_mem_newlines, by simpa using hy⟩
  have hfront : collapseBehind (x :: s) =
      if s.collapseBlank = [] then [] else ' ' :: s.collapseBlank :=
    collapseBehind_append_of_blank (List.cons_ne_nil x []) (by simpa using hx) s
  have hbehind := collapseBehind_append_of_blank (by simp) hblanks t
  rw [List.append_assoc, List.singleton_append] at hbehind
  rw [hfront, hbehind]
  -- a space is left of what is blank, unless nothing follows
  by_cases hs : s.collapseBlank = []
  · rw [if_pos hs, hs]
    split
    · rename_i ht
      rw [ht]
    · rename_i ht
      exact iff_of_false (List.cons_ne_nil _ _).symm (Ne.symm ht)
  · rw [if_neg hs]
    split
    · rename_i ht
      rw [ht]
      exact iff_of_false (List.cons_ne_nil _ _) hs
    · rw [List.cons_inj_right]

/-- A visible character goes on with a word only if no blank character parts them. -/
theorem collapseBehind_visible_cons_iff (hx : Gemtext.isBlank x = false) (n : Nat) :
    collapseBehind (x :: s) = collapseBehind (List.replicate n '\n' ++ x :: t) ↔
      n = 0 ∧ collapseBehind s = collapseBehind t := by
  cases n with
  | zero => simp [collapseBehind_visible hx]
  | succ n =>
    have hbehind := collapseBehind_append_of_blank (by simp) (isBlank_of_mem_newlines (n := n + 1))
      (x :: t)
    rw [collapseBlank_visible hx, if_neg (List.cons_ne_nil _ _)] at hbehind
    rw [collapseBehind_visible hx, hbehind]
    refine iff_of_false (fun h => ?_) (by simp)
    exact ne_of_visible hx rfl (List.cons.inj h).1

end

/-- Without its hard breaks a content has the words that a reader sees, unless it glues some.  For
the induction it is also said of what stands behind a visible character and hard breaks. -/
theorem collapse_plainText_eq_iff (hc : Prose c) :
    (c.plainText.collapseBlank = c.visibleText.collapseBlank ↔ ¬Glues c) ∧
      ∀ x, Gemtext.isBlank x = false → ∀ n,
        (collapseBehind c.plainText = collapseBehind (List.replicate n '\n' ++ c.visibleText) ↔
          ¬Glues (.char x :: (List.replicate n .hardBreak ++ c))) := by
  induction c with
  | nil =>
    refine ⟨iff_of_true rfl not_glues_nil, fun x hx n => iff_of_true ?_ ?_⟩
    · cases n with
      | zero => rfl
      | succ n => exact (collapseBehind_append_of_blank (by simp) isBlank_of_mem_newlines []).symm
    · rw [glues_cons_iff, glues_breaks_append, List.append_nil]
      simp [not_opensWord_breaks, not_glues_nil]
  | cons atom rest ih =>
    obtain ⟨hatom, hrest⟩ := List.forall_mem_cons.1 hc
    obtain ⟨hwords, hbehind⟩ := ih hrest
    obtain ⟨y, rfl⟩ | rfl := hatom
    · have hplain : plainText (.char y :: rest) = y :: plainText rest := rfl
      have hvisible : visibleText (.char y :: rest) = y :: visibleText rest := rfl
      rw [hplain, hvisible]
      by_cases hy : Gemtext.isBlank y
      · refine ⟨?_, fun x hx n => ?_⟩
        · rw [collapseBlank_blank hy, collapseBlank_blank hy, glues_blank_cons hy, hwords]
        · rw [collapseBehind_blank_cons_iff hy hy, glues_behind_blank hy, hwords]
      · rw [Bool.not_eq_true] at hy
        -- the rest stands behind this character, with no hard break between
        have hword := hbehind y hy 0
        refine ⟨?_, fun x hx n => ?_⟩
        · rw [collapseBlank_visible hy, collapseBlank_visible hy, List.cons_inj_right]
          exact hword
        · rw [collapseBehind_visible_cons_iff hy, glues_behind_visible hx hy, not_or,
            Nat.not_lt, Nat.le_zero]
          exact and_congr_right fun _ => hword
    · have hplain : plainText (.hardBreak :: rest) = plainText rest := rfl
      have hvisible : visibleText (.hardBreak :: rest) = '\n' :: visibleText rest := rfl
      rw [hplain, hvisible]
      refine ⟨?_, fun x hx n => ?_⟩
      · rw [collapseBlank_blank rfl, glues_hardBreak_cons, hwords]
      · -- one hard break more stands in front of the rest
        have hstep := hbehind x hx (n + 1)
        rw [List.replicate_succ', List.replicate_succ', List.append_assoc, List.append_assoc]
          at hstep
        exact hstep

/-- Hard breaks are no words. -/
theorem collapseBlank_plainText_eq_nil_iff (hc : Prose c) :
    c.plainText.collapseBlank = [] ↔ c.visibleText.collapseBlank = [] := by
  induction c with
  | nil => exact Iff.rfl
  | cons atom rest ih =>
    obtain ⟨hatom, hrest⟩ := List.forall_mem_cons.1 hc
    obtain ⟨y, rfl⟩ | rfl := hatom
    · show collapseBlank (y :: plainText rest) = [] ↔ collapseBlank (y :: visibleText rest) = []
      by_cases hy : Gemtext.isBlank y
      · rw [collapseBlank_blank hy, collapseBlank_blank hy, ih hrest]
      · rw [Bool.not_eq_true] at hy
        rw [collapseBlank_visible hy, collapseBlank_visible hy]
        exact iff_of_false (List.cons_ne_nil _ _) (List.cons_ne_nil _ _)
    · show collapseBlank (plainText rest) = [] ↔ collapseBlank ('\n' :: visibleText rest) = []
      rw [collapseBlank_blank rfl, ih hrest]

end Content

namespace Render

open Content

/-- Line ends part words as spaces do. -/
theorem collapse_onOneLine (s : Text) :
    (onOneLine s).collapseBlank = s.collapseBlank ∧
      collapseBehind (onOneLine s) = collapseBehind s := by
  induction s with
  | nil => exact ⟨rfl, rfl⟩
  | cons x rest ih =>
    obtain ⟨hwords, hbehind⟩ := ih
    have hcons : onOneLine (x :: rest) = (if x = '\n' then ' ' else x) :: onOneLine rest := rfl
    rw [hcons]
    by_cases hx : isBlank x
    · -- a newline is blank, and so is the space in its place
      have hspace : isBlank (if x = '\n' then ' ' else x) := by
        split
        · rfl
        · exact hx
      rw [collapseBlank_blank hspace, collapseBlank_blank hx]
      exact ⟨hwords, (collapseBehind_blank_cons_iff hspace hx 0).2 hwords⟩
    · rw [Bool.not_eq_true] at hx
      have hne : x ≠ '\n' := ne_of_visible hx rfl
      rw [if_neg hne, collapseBlank_visible hx, collapseBlank_visible hx,
        collapseBehind_visible hx, collapseBehind_visible hx, hbehind]
      exact ⟨rfl, rfl⟩

/-! ## The label of a link -/

/-- The label of a link is its bare text, with its words parted by spaces, unless the content glues
some of them. -/
theorem linkLabel?_eq_iff {url inner : Text} {content : Content} (hcontent : content.Prose)
    (hinner : content.visibleText.collapseBlank = inner.collapseBlank)
    (hurl : inner.collapseBlank ≠ url) :
    linkLabel? url content inner =
        (if inner.collapseBlank = [] then none else some inner.collapseBlank) ↔
      ¬content.Glues := by
  rw [← (collapse_plainText_eq_iff hcontent).1, hinner]
  have hnil := collapseBlank_plainText_eq_nil_iff hcontent
  rw [hinner] at hnil
  -- without words there is no label
  by_cases hnone : inner.collapseBlank = []
  · simp [linkLabel?, hnil.2 hnone, hnone]
  · have hshown : content.plainText.collapseBlank ≠ [] := fun h => hnone (hnil.1 h)
    have hlabel : linkLabel? url content inner =
        if content.plainText.collapseBlank = url then none
        else some content.plainText.collapseBlank := by
      simp [linkLabel?, hshown]
    rw [hlabel, if_neg hnone]
    split
    · -- a label that reads like the target is left out
      rename_i hsame
      exact iff_of_false nofun fun h => hurl (h.symm.trans hsame)
    · rw [Option.some_inj]

end Render

namespace Markdown

open Render Content

/-- Whether nodes of the kind are text, line breaks or marks around them. -/
def NodeKind.isLabelPart : NodeKind → Bool
  | text _ | code _ | softBreak | lineBreak | emphasis | strong => true
  | _ => false

namespace Node

variable {c : Conversion} {s : RenderState}

mutual

/-- Without markup, a part of a label shows the bare text below it, with a newline for each line
break. -/
theorem yields_renderIn_label (hplain : c.plain) (tight : Bool) (level : Nat) {node : Node}
    (h : everywhere (fun node => node.kind.isLabelPart) node) :
    ∃ content, Yields (renderIn (gemtextRenderer c) tight level node) s content s ∧
      content.Prose ∧ onOneLine content.visibleText = onOneLine (innerText node) := by
  obtain ⟨kind, children⟩ := node
  obtain ⟨hkind, hchildren⟩ := everywhere_mk.1 h
  cases kind with
  | text text =>
    refine ⟨ofText text, ?_, .ofText text, by rw [visibleText_ofText, innerText]⟩
    rw [renderIn_leaf rfl, yields_liftM]
    rfl
  | code literal =>
    refine ⟨ofText literal, ?_, .ofText literal, by rw [visibleText_ofText, innerText]⟩
    -- without marks, code is shown as it is
    have hcode : codeSpan c literal = ofText literal := by rw [codeSpan, if_pos hplain]
    rw [renderIn_leaf rfl, yields_liftM, ← hcode]
    rfl
  | softBreak => exact ⟨ofText ['\n'], rfl, .ofText _, rfl⟩
  | lineBreak => exact ⟨[.hardBreak], rfl, by simp [Prose], rfl⟩
  | emphasis | strong =>
    obtain ⟨content, hcontent, hprose, htext⟩ := yields_renderAll_label hplain level hchildren
    -- and so is emphasis
    have hmarked (marker : Text) : marked c marker content = content := if_pos hplain
    refine ⟨content, ?_, hprose, htext⟩
    simp only [renderIn, yields_bind, yields_liftM]
    exact ⟨content, s, hcontent, congrArg (·, s) (hmarked _)⟩
  | _ => cases hkind

/-- Nodes of a label are rendered to their texts, one after the other. -/
theorem yields_renderAll_label (hplain : c.plain) (level : Nat) {nodes : List Node}
    (h : everywhereAll (fun node => node.kind.isLabelPart) nodes) :
    ∃ content, Yields (renderAll (gemtextRenderer c) level nodes) s content s ∧
      content.Prose ∧ onOneLine content.visibleText = onOneLine (innerTexts nodes) := by
  cases nodes with
  | nil => exact ⟨[], yields_renderAll_nil.2 ⟨rfl, rfl⟩, .nil, rfl⟩
  | cons node nodes =>
    obtain ⟨hnode, hnodes⟩ := everywhereAll_cons.1 h
    obtain ⟨first, hfirst, hprose, htext⟩ := yields_renderIn_label hplain false level hnode
    obtain ⟨others, hothers, hprose', htext'⟩ := yields_renderAll_label hplain level hnodes
    refine ⟨first ++ others, yields_renderAll_cons.2 ⟨first, s, hfirst, others, hothers, rfl⟩,
      hprose.append hprose', ?_⟩
    rw [visibleText_append, onOneLine_append, htext, htext', innerTexts, onOneLine_append]

end

/-- A link that leads out of the document becomes its link line, or refers to its footnote. -/
theorem yields_renderIn_link (hmode : c.links ≠ .off) {url : Text} {children : List Node}
    (hanchor : url.trim.head? ≠ some '#') (tight : Bool) {level : Nat} {content : Content}
    (hcontent : Yields (renderAll (gemtextRenderer c) level children) s content s)
    (hprose : content.Prose) :
    let l : LinkCall := ⟨url, content, innerTexts children⟩
    Yields (renderIn (gemtextRenderer c) tight level (mk (.link url) children)) s
      (if c.links = .newline then [.link ⟨(l.target c).trim, l.label?⟩]
        else ofText (shownText c (l.footnote c) (s.footnotes.counter + 1)))
      (if c.links = .newline then s
        else { s with footnotes := s.footnotes.register (l.footnote c) }) := by
  intro l
  -- prose holds no link lines
  have hnoLinks : content.linkLines = [] := by
    refine List.filter_eq_nil_iff.2 fun atom hatom => ?_
    obtain ⟨x, rfl⟩ | rfl := hprose atom hatom
    · exact Bool.false_ne_true
    · exact Bool.false_ne_true
  simp only [renderIn_container (show isContainer (.link url) from rfl), yields_bind, yields_liftM]
  refine ⟨(), s, rfl, content, s, hcontent, ?_⟩
  show link c url content (innerTexts children) s = _
  by_cases hnewline : c.links = .newline
  · -- the label is not trimmed any further, as it is made of words
    have hline : LinkLine.ofTrimmed (l.target c) l.label? = ⟨(l.target c).trim, l.label?⟩ :=
      LinkLine.ofTrimmed_eq fun _ hlabel => framed_linkLabel? hlabel
    rw [if_pos hnewline, if_pos hnewline, link_newline hnewline hanchor, hnoLinks, ← hline]
    rfl
  · -- in the other modes a footnote is kept
    have huses : c.links.usesFootnotes := by
      cases hlinks : c.links with
      | off => exact absurd hlinks hmode
      | newline => exact absurd hlinks hnewline
      | _ => rfl
    rw [if_neg hnewline, if_neg hnewline, link_eq_register (l := l) huses hanchor, hnoLinks,
      List.append_nil]

/-- Without markup, a link that leads out of the document and is made of text, line breaks and marks
around them becomes its link line, or the reference to its footnote.  The label that is kept of it
is the bare text below it with single spaces between the words, exactly if its content glues none
of them: where nothing but hard breaks stands between two words, the label runs them together. -/
theorem linkLabel_eq_innerTexts_iff (hplain : c.plain) (hmode : c.links ≠ .off) {url : Text}
    {children : List Node} (hanchor : url.trim.head? ≠ some '#')
    (hparts : everywhereAll (fun node => node.kind.isLabelPart) children)
    (hurl : (innerTexts children).collapseBlank ≠ url.trim) (tight : Bool) (level : Nat)
    (s : RenderState) :
    ∃ content, Yields (renderAll (gemtextRenderer c) level children) s content s ∧
      let l : LinkCall := ⟨url, content, innerTexts children⟩
      let inner := (innerTexts children).collapseBlank
      Yields (renderIn (gemtextRenderer c) tight level (mk (.link url) children)) s
        (if c.links = .newline then [.link ⟨(l.target c).trim, l.label?⟩]
          else ofText (shownText c (l.footnote c) (s.footnotes.counter + 1)))
        (if c.links = .newline then s
          else { s with footnotes := s.footnotes.register (l.footnote c) }) ∧
      (l.label? = (if inner = [] then none else some inner) ↔ ¬content.Glues) := by
  obtain ⟨content, hcontent, hprose, htext⟩ := yields_renderAll_label hplain level hparts
  -- the label and the text of the nodes have the same words
  have hinner : content.visibleText.collapseBlank = (innerTexts children).collapseBlank := by
    rw [← (collapse_onOneLine content.visibleText).1, htext, (collapse_onOneLine _).1]
  exact ⟨content, hcontent, yields_renderIn_link hmode hanchor tight hcontent hprose,
    linkLabel?_eq_iff hprose hinner hurl⟩

/-- A soft break parts the words of a label, whatever marks stand around them. -/
theorem linkLabel_eq_innerTexts_soft :
    let c := { Conversion.standard with plain := true, links := .copy }
    let children := [mk (.text ['a']) [], mk .softBreak [],
      mk .emphasis [mk (.code ['b']) [], mk .lineBreak []]]
    let content := ofText "a\nb".toList ++ [.hardBreak]
    let l : LinkCall := ⟨['u'], content, innerTexts children⟩
    Yields (renderIn (gemtextRenderer c) false 0 (mk (.link ['u']) children)) .initial
        (ofText "a b".toList)
        { RenderState.initial with footnotes := ⟨1, [⟨['u'], "a b".toList⟩]⟩ } ∧
      (l.label? = some "a b".toList ↔ ¬content.Glues) := by
  intro c children content l
  have hplain : c.plain := rfl
  have hanchor : (Text.trim ['u']).head? ≠ some '#' := by decide
  have hparts : everywhereAll (fun node => node.kind.isLabelPart) children := by decide
  have hurl : (innerTexts children).collapseBlank ≠ Text.trim ['u'] := by decide
  -- a soft break parts the words, and nothing follows the hard one
  obtain ⟨shown, hshown, hlink, hlabel⟩ :=
    linkLabel_eq_innerTexts_iff hplain (by decide) hanchor hparts hurl false 0 .initial
  have hcontent : Yields (renderAll (gemtextRenderer c) 0 children) .initial content .initial := rfl
  obtain rfl : shown = content := Except.ok.inj (congrArg Prod.fst (hshown.symm.trans hcontent))
  exact ⟨hlink, hlabel⟩

/-- A hard break alone does not: the label of the link is one word, where the bare text below it
has two. -/
theorem glues_label_words :
    let c := { Conversion.standard with plain := true }
    let children := [mk (.text ['a']) [], mk .lineBreak [], mk (.text ['b']) []]
    everywhereAll (fun node => node.kind.isLabelPart) children ∧
      (innerTexts children).collapseBlank = "a b".toList ∧
      Yields (renderIn (gemtextRenderer c) false 0 (mk (.link ['u']) children)) .initial
        [.link ⟨['u'], some "ab".toList⟩] .initial := by
  intro c children
  exact ⟨by decide, by decide, rfl⟩

end Node

end Markdown

end Gemtext
