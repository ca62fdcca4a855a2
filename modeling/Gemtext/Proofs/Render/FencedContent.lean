import Gemtext.Proofs.Layout.Fences
import Gemtext.Proofs.Render.Boundaries
import Gemtext.Proofs.Text.CodeSpans

/-!
# Contents that are laid out with fences in pairs

A content `LaysFences` if its layout is `Fenced` and its paragraph boundaries pair up, so that
contents that do may follow one another (`LaysFences.append`).  There are two ways to be sure of a
content that opens no fence at all: none of its lines seems a fence (`Fenceless`), or its backticks
belong to code spans (`SpannedLine`), which also survives being put on one line.
-/

namespace Gemtext

open Layout

/-- Whether the atom parts paragraphs or lines without being a newline. -/
def Atom.isBreak : Atom → Bool
  | boundary | hardBreak => true
  | _ => false

namespace Content

variable {c d : Content} {lines : List Content}

/-! ## What a line begins with -/

/-- The characters of a blank content are blank. -/
theorem isBlank_of_mem_plainText (h : ∀ atom ∈ c, atom.isBlank) {x : Char}
    (hx : x ∈ plainText c) : Gemtext.isBlank x := by
  obtain ⟨atom, hatom, heq⟩ := List.mem_filterMap.1 hx
  obtain ⟨y, rfl, hy⟩ := exists_char_of_isBlank (h atom hatom)
  rwa [← Option.some.inj heq]

/-- A front without link lines and newlines is what the content begins with. -/
theorem lead_eq_plainText_append (h : ∀ atom ∈ c, !atom.isLink && atom != .char '\n') :
    lead (c ++ d) = plainText c ++ lead d := by
  rw [lead, List.takeWhile_append_of_pos h, plainText, List.filterMap_append, ← plainText,
    ← plainText, ← lead]

/-- A text in front, on one line, is what the content begins with. -/
theorem lead_ofText_append {s : Text} (h : '\n' ∉ s) (d : Content) :
    lead (ofText s ++ d) = s ++ lead d := by
  induction s with
  | nil => rfl
  | cons x rest ih =>
    rw [List.mem_cons, not_or] at h
    have hcons : ofText (x :: rest) ++ d = .char x :: (ofText rest ++ d) := rfl
    rw [hcons, lead_char (Ne.symm h.1), ih h.2]
    rfl

theorem lead_ofText {s : Text} (h : '\n' ∉ s) : lead (ofText s) = s := by
  have happend := lead_ofText_append h []
  rwa [List.append_nil, lead_nil, List.append_nil] at happend

/-- A line that is cut off begins like the whole line. -/
theorem exists_lead_append (c d : Content) : ∃ more, lead (c ++ d) = lead c ++ more := by
  rw [lead, lead, List.takeWhile_append]
  split
  · rename_i hall
    have hwhole := (List.takeWhile_prefix (fun atom => !atom.isLink && atom != .char '\n')
      (l := c)).eq_of_length hall
    refine ⟨lead d, ?_⟩
    rw [hwhole, plainText, List.filterMap_append, ← plainText, ← plainText, ← lead]
  · exact ⟨[], (List.append_nil _).symm⟩

/-- The beginning of a line that seems no fence seems none. -/
theorem seemsFence_lead_of_isPrefix {line whole : Content} (h : line <+: whole)
    (hwhole : seemsFence (lead whole) = false) : seemsFence (lead line) = false := by
  obtain ⟨rest, rfl⟩ := h
  obtain ⟨more, hmore⟩ := exists_lead_append line rest
  refine Bool.eq_false_iff.2 fun hseems => ?_
  rw [hmore, seemsFence_append hseems more] at hwhole
  cases hwhole

/-! ## Contents without fences -/

/-- No line of the content seems a fence. -/
def Fenceless (c : Content) : Prop :=
  ∀ line ∈ splitOn (.char '\n') c, seemsFence (lead line) = false

namespace Fenceless

theorem nil : Fenceless [] := by
  intro line hline
  rw [List.mem_singleton.1 hline]
  rfl

/-- What is cut off behind may shorten the last line. -/
theorem of_append (h : Fenceless (c ++ d)) : Fenceless c := by
  obtain ⟨pieces, last, first, others, hc, -, happend, -⟩ :=
    List.exists_splitOn_append (.char '\n') c d
  intro line hline
  rw [Fenceless, splitOn_eq_list, happend] at h
  rw [splitOn_eq_list, hc] at hline
  rcases List.mem_append.1 hline with hline | hline
  · exact h line (List.mem_append_left _ hline)
  · rw [List.mem_singleton.1 hline]
    exact seemsFence_lead_of_isPrefix (List.prefix_append last first)
      (h _ (List.mem_append_right _ List.mem_cons_self))

/-- Blank characters in front may be taken away. -/
theorem of_blank_append (hblank : ∀ atom ∈ c, atom.isBlank) (h : Fenceless (c ++ d)) :
    Fenceless d := by
  -- only the first line is shorter than it was
  obtain ⟨pieces, last, first, others, hc, hd, happend, -⟩ :=
    List.exists_splitOn_append (.char '\n') c d
  rw [Fenceless, splitOn_eq_list, happend] at h
  intro line hline
  rw [splitOn_eq_list, hd] at hline
  rcases List.mem_cons.1 hline with rfl | hline
  · -- the first line has lost blank characters of the line that it shares with the front
    have hlast : ∀ atom ∈ last, atom ∈ c ∧ atom ≠ .char '\n' := fun atom hatom =>
      List.mem_and_ne_of_mem_splitOn (by rw [hc]; simp) hatom
    have hlead : lead (last ++ line) = plainText last ++ lead line := by
      refine lead_eq_plainText_append fun atom hatom => ?_
      obtain ⟨hmem, hne⟩ := hlast atom hatom
      obtain ⟨x, rfl, -⟩ := exists_char_of_isBlank (hblank atom hmem)
      simpa [Atom.isLink] using hne
    have hblanks : ∀ x ∈ plainText last, Gemtext.isBlank x := fun x =>
      isBlank_of_mem_plainText fun atom hatom => hblank atom (hlast atom hatom).1
    have hline := h (last ++ line) (by simp)
    rwa [hlead, seemsFence_blank_append hblanks] at hline
  · exact h line (by simp [hline])

/-- Joined lines without fences. -/
theorem joinWith (hnewline : ∀ line ∈ lines, .char '\n' ∉ line)
    (hseems : ∀ line ∈ lines, seemsFence (lead line) = false) :
    Fenceless (Content.joinWith ['\n'] lines) := by
  by_cases hne : lines = []
  · rw [hne]
    exact nil
  · rw [Fenceless, splitOn_joinWith hne hnewline]
    exact hseems

/-- Trimming takes blank characters away at both ends, before or after hard breaks are
resolved. -/
theorem resolve_trim (h : Fenceless c.resolveHardBreaks) : Fenceless c.trim.resolveHardBreaks := by
  obtain ⟨before, after, hc, hbefore, -⟩ := exists_append_trim_append c
  rw [hc, resolveHardBreaks, List.map_append, List.map_append] at h
  refine of_blank_append (fun atom hatom => ?_) h.of_append
  obtain ⟨source, hsource, rfl⟩ := List.mem_map.1 hatom
  obtain ⟨x, rfl, hx⟩ := exists_char_of_isBlank (hbefore source hsource)
  exact hx

end Fenceless

/-- Ended lines that all seem no fences are fenced. -/
theorem fenced_of_endsLines (hlines : EndsLines c lines)
    (h : ∀ line ∈ lines, seemsFence (lead line) = false) : Fenced c := by
  refine ⟨lines, hlines, fun line hline hseems => ?_, ?_⟩
  · rw [h line hline] at hseems
    cases hseems
  · have hnone : (lines.countP fun line => isFence (lead line)) = 0 :=
      List.countP_eq_zero.2 fun line hline => by simp [isFence_eq_false (h line hline)]
    rw [hnone]
    exact ⟨0, rfl⟩

/-- The lines of a text that are all ended are the lines of its content. -/
theorem fenced_ofText {s : Text} (lines : List Text)
    (hlines : Text.splitOn '\n' s = lines ++ [[]])
    (hindent : ∀ line ∈ lines, seemsFence line → isFence line)
    (heven : Even (lines.countP isFence)) : Fenced (ofText s) := by
  -- a line of a text is what it begins with
  have hlead {line : Text} (hline : line ∈ lines) : lead (ofText line) = line :=
    lead_ofText fun hn =>
      (Text.mem_and_ne_of_mem_splitOn (hlines ▸ List.mem_append_left _ hline) hn).2 rfl
  refine ⟨lines.map ofText, ?_, fun line hline => ?_, ?_⟩
  · rw [EndsLines, splitOn_ofText, hlines, List.map_append]
    rfl
  · obtain ⟨text, htext, rfl⟩ := List.mem_map.1 hline
    rw [hlead htext]
    exact hindent text htext
  · have hcount : (lines.map ofText).countP (fun line => isFence (lead line)) =
        lines.countP isFence := by
      rw [List.countP_map]
      refine List.countP_congr fun line hline => ?_
      rw [Function.comp_apply, hlead hline]
    rwa [hcount]

/-- A blank line ends the last line of a content without fences. -/
theorem Fenceless.append_blankLine (h : Fenceless c) : Fenced (c ++ ofText ['\n', '\n']) := by
  have hended : Fenced (c ++ [.char '\n']) :=
    fenced_of_endsLines (EndsLines.append_newline c) h
  have hempty : Fenced ([] ++ [.char '\n']) :=
    fenced_of_endsLines (EndsLines.append_newline []) Fenceless.nil
  have happend := hended.append hempty
  rwa [List.append_assoc] at happend

/-! ## Contents with code spans -/

/-- The texts of the lines, be they ended by newlines or by hard breaks, stand in the text of the
content, which begins with that of the first line. -/
theorem exists_splitOn_resolveHardBreaks (c : Content) :
    ∃ first others, splitOn (.char '\n') c.resolveHardBreaks = first :: others ∧
      plainText first <+: plainText c ∧ ∀ line ∈ others, plainText line <:+: plainText c := by
  induction c with
  | nil => exact ⟨[], [], rfl, List.prefix_rfl, by simp⟩
  | cons atom rest ih =>
    obtain ⟨first, others, hsplit, hfirst, hothers⟩ := ih
    have hall : ∀ line ∈ first :: others, plainText line <:+: plainText rest :=
      List.forall_mem_cons.2 ⟨hfirst.isInfix, hothers⟩
    have hcons : resolveHardBreaks (atom :: rest) =
        (if atom = .hardBreak then .char '\n' else atom) :: resolveHardBreaks rest := rfl
    rw [hcons, splitOn, hsplit]
    cases atom with
    | char x =>
      by_cases hx : x = '\n'
      · subst hx
        exact ⟨[], first :: others, by simp, List.nil_prefix,
          fun line hline => List.infix_cons (hall line hline)⟩
      · exact ⟨.char x :: first, others, by simp [hx], (List.prefix_cons_inj x).2 hfirst,
          fun line hline => List.infix_cons (hothers line hline)⟩
    | hardBreak => exact ⟨[], first :: others, by simp, List.nil_prefix, hall⟩
    -- all other marks are no text
    | boundary => exact ⟨.boundary :: first, others, by simp, hfirst, hothers⟩
    | link shown => exact ⟨.link shown :: first, others, by simp, hfirst, hothers⟩
    | cellEnd => exact ⟨.cellEnd :: first, others, by simp, hfirst, hothers⟩

/-- A line that hard breaks are resolved in holds a part of the text. -/
theorem plainText_isInfix_of_mem {line : Content}
    (h : line ∈ splitOn (.char '\n') c.resolveHardBreaks) : plainText line <:+: plainText c := by
  obtain ⟨first, others, hsplit, hfirst, hothers⟩ := exists_splitOn_resolveHardBreaks c
  rw [hsplit] at h
  rcases List.mem_cons.1 h with rfl | h
  · exact hfirst.isInfix
  · exact hothers line h

/-- Every backtick of the content belongs to a code span, and no boundary stands in it. -/
structure SpannedLine (c : Content) : Prop where
  spanned : Spanned (plainText c)
  noBoundary : .boundary ∉ c

/-- Code spans make no fence. -/
theorem fenceless_of_spanned (h : Spanned (plainText c)) : Fenceless c.resolveHardBreaks := by
  intro line hline
  refine Bool.eq_false_iff.2 fun hseems => h.not_fence_infix ?_
  have hlead : lead line <:+: plainText line :=
    ((List.takeWhile_prefix _).filterMap _).isInfix
  exact ((fence_isInfix_of_seemsFence hseems).trans hlead).trans (plainText_isInfix_of_mem hline)

/-- Reading the text of a content on one line ends where reading its text does. -/
theorem read_newlinesToSpaces (state : SpanState) (c : Content) :
    state.read (plainText c.newlinesToSpaces) = state.read (plainText c) := by
  -- to a reader, a line terminator is a blank character like a space
  have hnewline (state : SpanState) : state.step '\n' = state.step ' ' := by cases state <;> rfl
  have hreturn (state : SpanState) :
      ((state.step '\r').bind fun next => next.step '\n') = state.step ' ' := by
    cases state <;> rfl
  fun_induction newlinesToSpaces c generalizing state with
  | case1 => rfl
  | case2 rest ih =>
    calc state.read (plainText (.char ' ' :: newlinesToSpaces rest))
        = (state.step ' ').bind fun next => next.read (plainText (newlinesToSpaces rest)) := rfl
      _ = (state.step ' ').bind fun next => next.read (plainText rest) := by simp only [ih]
      _ = state.read (plainText (.char '\r' :: .char '\n' :: rest)) := by
        rw [← hreturn, Option.bind_assoc]
        rfl
  | case3 atom rest _ ih =>
    cases atom with
    | char x =>
      have hread (y : Char) (hy : state.step y = state.step x) :
          state.read (plainText (.char y :: newlinesToSpaces rest)) =
            state.read (plainText (.char x :: rest)) := by
        calc state.read (plainText (.char y :: newlinesToSpaces rest))
            = (state.step y).bind fun next => next.read (plainText (newlinesToSpaces rest)) := rfl
          _ = (state.step x).bind fun next => next.read (plainText rest) := by simp only [ih, hy]
          _ = state.read (plainText (.char x :: rest)) := rfl
      by_cases hx : x = '\n'
      · subst hx
        exact hread ' ' (hnewline state).symm
      · rw [if_neg (by simp [hx])]
        exact hread x rfl
    | boundary | link | hardBreak | cellEnd => exact ih state

namespace SpannedLine

theorem nil : SpannedLine [] := ⟨rfl, List.not_mem_nil⟩

/-- Such contents stand one behind the other. -/
theorem append (hc : SpannedLine c) (hd : SpannedLine d) : SpannedLine (c ++ d) where
  spanned := by
    rw [plainText_append]
    exact hc.spanned.append hd.spanned
  noBoundary := by simp [hc.noBoundary, hd.noBoundary]

theorem ofText {s : Text} (h : Spanned s) : SpannedLine (Content.ofText s) where
  spanned := by rwa [plainText_ofText]
  noBoundary := by simp [Content.ofText]

/-- Link lines show no text. -/
theorem of_isLink (h : ∀ atom ∈ c, atom.isLink) : SpannedLine c where
  spanned := by
    have hnone : plainText c = [] := List.filterMap_eq_nil_iff.2 fun atom hatom => by
      have hlink := h atom hatom
      cases atom <;> simp_all [Atom.isLink]
    rw [hnone]
    rfl
  noBoundary hmem := absurd (h _ hmem) Bool.false_ne_true

/-- Trimming keeps the backticks around code. -/
theorem trim (h : SpannedLine c) : SpannedLine c.trim where
  spanned := by
    obtain ⟨before, after, hc, hbefore, hafter⟩ := exists_append_trim_append c
    have hblank {blanks : Content} (hall : ∀ atom ∈ blanks, atom.isBlank) :
        '`' ∉ plainText blanks := fun hmem =>
      absurd (isBlank_of_mem_plainText hall hmem) (by decide)
    have hspanned := h.spanned
    rw [hc, plainText_append, plainText_append] at hspanned
    exact (hspanned.of_append (hblank hafter)).of_not_mem_append (hblank hbefore)
  noBoundary hmem := h.noBoundary (mem_of_mem_trim hmem)

end SpannedLine

/-! ## Contents without breaks -/

/-- What is not broken has no boundary. -/
theorem noBoundary_of_unbroken (h : c.filter Atom.isBreak = []) : .boundary ∉ c := fun hmem =>
  List.filter_eq_nil_iff.1 h _ hmem rfl

/-- What is not broken has no hard breaks to be resolved. -/
theorem resolveHardBreaks_of_unbroken (h : c.filter Atom.isBreak = []) :
    c.resolveHardBreaks = c :=
  resolveHardBreaks_of_not_mem fun hmem => List.filter_eq_nil_iff.1 h _ hmem rfl

/-- Flattening leaves neither boundaries nor hard breaks. -/
theorem filter_isBreak_flattenBlocks (c : Content) : c.flattenBlocks.filter Atom.isBreak = [] := by
  rw [filter_flattenBlocks fun _ => rfl, List.filter_eq_nil_iff]
  intro atom _ h
  cases atom <;> simp [Atom.isBreak] at h

/-! ## Layout -/

/-- Laid out, the content is fenced, and the layout is outside a region behind it. -/
structure LaysFences (c : Content) : Prop where
  even : Even (c.count .boundary)
  fenced : Fenced c.layoutParagraphs.resolveHardBreaks

namespace LaysFences

theorem nil : LaysFences [] := ⟨⟨0, rfl⟩, Fenced.nil⟩

/-- Fences that come in pairs are not confused by what follows. -/
theorem append (hc : LaysFences c) (hd : LaysFences d) : LaysFences (c ++ d) where
  even := by
    rw [List.count_append]
    exact hc.even.add hd.even
  fenced := by
    rw [layoutParagraphs_append hc.even, resolveHardBreaks, List.map_append]
    exact hc.fenced.append hd.fenced

/-- A content without boundaries is laid out as it is. -/
theorem of_noBoundary (hnone : .boundary ∉ c) (h : Fenced c.resolveHardBreaks) :
    LaysFences c where
  even := by
    rw [List.count_eq_zero.2 hnone]
    exact ⟨0, rfl⟩
  fenced := by rwa [layoutParagraphs_of_not_mem hnone]

/-- What is not broken is laid out as it is. -/
theorem of_unbroken (hnone : c.filter Atom.isBreak = []) (h : Fenced c) : LaysFences c := by
  refine .of_noBoundary (noBoundary_of_unbroken hnone) ?_
  rwa [resolveHardBreaks_of_unbroken hnone]

/-- A paragraph region is laid out trimmed and on one line, and a blank line ends it. -/
theorem paragraphRegion (hnone : .boundary ∉ c)
    (h : Fenceless c.trim.newlinesToSpaces.resolveHardBreaks) :
    LaysFences (Render.paragraphRegion c) where
  even := by
    simp only [Render.paragraphRegion, List.cons_append, List.count_cons, List.count_append,
      List.count_eq_zero.2 hnone]
    exact ⟨1, rfl⟩
  fenced := by
    rw [layoutParagraphs_paragraphRegion hnone, resolveHardBreaks, List.map_append]
    exact h.append_blankLine

end LaysFences

namespace SpannedLine

/-- A region of text with code spans. -/
theorem laysFences_paragraphRegion (h : SpannedLine c) :
    LaysFences (Render.paragraphRegion c) := by
  refine .paragraphRegion h.noBoundary (fenceless_of_spanned ?_)
  rw [Spanned, read_newlinesToSpaces]
  exact h.trim.spanned

/-- A text with code spans, and a blank line. -/
theorem laysFences_append_blankLine (h : SpannedLine c) :
    LaysFences (c ++ Content.ofText ['\n', '\n']) := by
  refine .of_noBoundary (by simp [h.noBoundary, Content.ofText]) ?_
  rw [resolveHardBreaks, List.map_append]
  exact (fenceless_of_spanned h.spanned).append_blankLine

end SpannedLine

end Content

end Gemtext
