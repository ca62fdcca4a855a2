import Gemtext.Proofs.Render.StandingAlone

/-!
# Blocks inside quotations and items

In a list item the lines of the blocks are joined, and in a quotation they get a marker.  So inside
an item no block may hold a fence anywhere (`BlandBlock`), while inside a quotation no fence may
stand behind a link line on the same line (`Tidy`): the link line is put on a line of its own, and
what follows it begins the next one, without a marker.

A quotation of tidy blocks is tidy again and stands alone (`tidy_blockQuote`,
`standsAlone_blockQuote`), and so does a list of bland blocks.
-/

namespace Gemtext

open Layout

namespace Layout

namespace Steady

variable {s t : Text}

theorem append_cons (hs : Steady s) (ht : Steady t) : Steady (s ++ '\n' :: t) := by
  rw [Steady, lineCount_append_cons, hs, ht]

/-- Steady lines are joined to a steady text. -/
theorem joinWith {pieces : List Text} (h : ∀ piece ∈ pieces, Steady piece) :
    Steady (Text.joinWith ['\n'] pieces) := by
  induction pieces with
  | nil => exact lineCount_nil ignoresEnd_isUnsteady
  | cons piece pieces ih =>
    obtain ⟨hpiece, hpieces⟩ := List.forall_mem_cons.1 h
    by_cases hnil : pieces = []
    · subst hnil
      exact hpiece
    · rw [Text.joinWith_cons hnil, List.append_assoc]
      exact hpiece.append_cons (ih hpieces)

end Steady

end Layout

namespace Content

variable {c d : Content}

/-! ## Flattened contents -/

/-- What is not broken is flat. -/
theorem flattenBlocks_of_unbroken (h : c.filter Atom.isBreak = []) : c.flattenBlocks = c := by
  rw [← resolveHardBreaks_eq_flattenBlocks (noBoundary_of_unbroken h),
    resolveHardBreaks_of_unbroken h]

/-- The content of a block whose lines are ended and hold no fence. -/
structure BlandBlock (c : Content) : Prop where
  ended : c.flattenBlocks.Ended
  bland : Bland (parted c.flattenBlocks)

/-- From the first link line on, the lines of the content hold only what is `ok`. -/
def Behind (ok : Content → Prop) (c : Content) : Prop :=
  ∀ line rest, .link line :: rest <:+: c → .char '\n' ∉ rest → ok (.link line :: rest)

/-- The content of blocks whose lines are ended, and from the first link line on hold only what is
`ok`. -/
structure TidyFor (ok : Content → Prop) (c : Content) : Prop where
  ended : c.flattenBlocks.Ended
  behind : Behind ok c.flattenBlocks

/-- The content of blocks whose lines are ended, and hold no fence from the first link line on. -/
abbrev Tidy (c : Content) : Prop :=
  TidyFor (fun d => Bland (parted d)) c

namespace BlandBlock

theorem nil : BlandBlock [] := ⟨.inl rfl, .nil⟩

/-- Bland blocks stand one behind the other. -/
theorem append (hc : BlandBlock c) (hd : BlandBlock d) : BlandBlock (c ++ d) where
  ended := by
    rw [flattenBlocks_append]
    exact hc.ended.append hd.ended
  bland := by
    rw [flattenBlocks_append, parted_append]
    rcases hc.ended with hnil | ⟨lines, hlines⟩
    · rw [hnil]
      exact hd.bland
    · -- no fence reaches over the newline that ends the first block
      have hbland := hc.bland
      rw [hlines, parted_append] at hbland ⊢
      rw [List.append_assoc]
      exact (hbland.of_isInfix (List.prefix_append _ _).isInfix).append_newline hd.bland

theorem tidy (h : BlandBlock c) : Tidy c :=
  ⟨h.ended, fun _ _ hcut _ => h.bland.of_isInfix (parted_isInfix hcut)⟩

/-- A region of what shows no fence. -/
theorem paragraphRegion (h : Bland (parted c.flattenBlocks)) :
    BlandBlock (Render.paragraphRegion c) where
  ended := .inr ⟨.char '\n' :: c.flattenBlocks, by simp [Render.paragraphRegion, flattenBlocks]⟩
  bland := by
    -- flattened, the boundaries are newlines
    have hregion : (Render.paragraphRegion c).flattenBlocks =
        .char '\n' :: (c.flattenBlocks ++ [.char '\n']) := by
      simp [Render.paragraphRegion, flattenBlocks]
    have hinner := Bland.nil.append_newline (h.append_newline .nil)
    rw [hregion]
    simpa [parted] using hinner

/-- Lines that show no fence, behind which a line ends. -/
theorem append_newline (h : Bland (parted c.flattenBlocks)) : BlandBlock (c ++ [.char '\n']) where
  ended := .inr ⟨c.flattenBlocks, by simp [flattenBlocks]⟩
  bland := by
    rw [flattenBlocks_append, parted_append]
    exact h.append_newline .nil

/-- A bland line with a blank one behind it is a bland block. -/
theorem append_blankLine (h : Bland (parted c.flattenBlocks)) :
    BlandBlock (c ++ ofText ['\n', '\n']) := by
  have hline := append_newline (append_newline h).bland
  rwa [List.append_assoc] at hline

end BlandBlock

namespace TidyFor

variable {ok : Content → Prop}

theorem nil : TidyFor ok [] := ⟨.inl rfl, fun _ _ hcut => by simp [flattenBlocks] at hcut⟩

/-- A line that is ended does not reach into what follows. -/
theorem append (hc : TidyFor ok c) (hd : TidyFor ok d) : TidyFor ok (c ++ d) where
  ended := by
    rw [flattenBlocks_append]
    exact hc.ended.append hd.ended
  behind line rest hcut hrest := by
    rw [flattenBlocks_append] at hcut
    rcases hc.ended with hnil | ⟨lines, hlines⟩
    · rw [hnil] at hcut
      exact hd.behind line rest hcut hrest
    · -- what begins at a link line stands before the newline or behind it
      rw [hlines, List.append_assoc] at hcut
      rcases List.isInfix_or_isInfix_of_append_cons (by simp [hrest]) hcut with h | h
      · refine hc.behind line rest ?_ hrest
        rw [hlines]
        exact h.trans (List.prefix_append _ _).isInfix
      · exact hd.behind line rest h hrest

/-- A text has no link lines. -/
theorem ofText {s : Text} (h : (Content.ofText s).Ended) : TidyFor ok (Content.ofText s) where
  ended := by rwa [flattenBlocks_ofText]
  behind line rest hcut _ := by
    have hmem := hcut.mem List.mem_cons_self
    rw [flattenBlocks_ofText] at hmem
    simp [Content.ofText] at hmem

end TidyFor

end Content

/-! ## Quotations -/

namespace Render

open Content Markdown.Node

variable {c : Conversion} {content : Content}

/-- The lines of a quotation are cut out of its content, and marked. -/
theorem exists_of_mem_quotedLines {line : Content} (h : line ∈ quotedLines content) :
    ∃ bare, bare <:+: content.flattenBlocks ∧ .char '\n' ∉ bare ∧ line = quoteLine bare := by
  obtain ⟨bare, hbare, rfl⟩ := List.mem_map.1 h
  obtain ⟨source, hsource, rfl⟩ := List.mem_map.1 (mem_of_mem_squeezeEmpty hbare)
  refine ⟨source.trim, ?_, ?_, rfl⟩
  · exact (Content.trim_isInfix source).trans
      ((isInfix_of_mem_lines hsource).trans (Content.trim_isInfix _))
  · exact fun hmem => newline_not_mem_of_mem_lines hsource (Content.mem_of_mem_trim hmem)

/-- Flattened, a quotation is its marked lines. -/
theorem flattenBlocks_quoted (content : Content) :
    (quoted content).flattenBlocks = Content.joinWith ['\n'] (quotedLines content) := by
  rw [← resolveHardBreaks_eq_flattenBlocks (boundary_not_mem_quoted content),
    resolveHardBreaks_quoted]

/-- A quotation stands on lines of its own. -/
theorem flattenBlocks_blockQuote (content : Content) :
    (blockQuote content).flattenBlocks =
      .char '\n' :: (Content.joinWith ['\n'] (quotedLines content) ++ [.char '\n']) := by
  rw [blockQuote_eq, ← flattenBlocks_quoted]
  simp [paragraphRegion, flattenBlocks]

/-- The marker of a quotation leaves a line bland. -/
theorem bland_quoteLine {line : Content} (h : Bland (parted line)) :
    Bland (parted (quoteLine line)) := by
  unfold quoteLine
  split
  · exact .of_isTame (s := ['>']) rfl
  · exact h
  · exact .append_left (s := ['>', ' ']) rfl h

/-- So a bland block is quoted to a bland one. -/
theorem blandBlock_blockQuote (h : BlandBlock content) : BlandBlock (blockQuote content) := by
  rw [blockQuote_eq]
  refine .paragraphRegion ?_
  rw [← resolveHardBreaks_eq_flattenBlocks (boundary_not_mem_quoted content),
    resolveHardBreaks_quoted, parted_joinWith]
  refine .joinWith (fun piece hpiece => ?_) (by decide) (by decide)
  obtain ⟨line, hline, rfl⟩ := List.mem_map.1 hpiece
  obtain ⟨bare, hbare, -, rfl⟩ := exists_of_mem_quotedLines hline
  exact bland_quoteLine (h.bland.of_isInfix (parted_isInfix hbare))

/-- What holds no newline stands in one of the lines that newlines join. -/
theorem exists_isInfix_of_isInfix_joinWith {lines : List Content} {atom : Atom} {rest : Content}
    (hnewline : .char '\n' ∉ atom :: rest)
    (h : atom :: rest <:+: Content.joinWith ['\n'] lines) :
    ∃ line ∈ lines, atom :: rest <:+: line := by
  -- it stands in the first line, or behind the newline that follows it
  induction lines with
  | nil => simp [Content.joinWith] at h
  | cons line lines ih =>
    by_cases hnil : lines = []
    · subst hnil
      exact ⟨line, List.mem_cons_self, h⟩
    · rw [joinWith_cons hnil, List.append_assoc] at h
      rcases List.isInfix_or_isInfix_of_append_cons hnewline h with h | h
      · exact ⟨line, List.mem_cons_self, h⟩
      · obtain ⟨other, hother, h⟩ := ih h
        exact ⟨other, List.mem_cons_of_mem line hother, h⟩

/-- A marker stands in front of no link line. -/
theorem isInfix_of_isInfix_quoteLine {bare rest : Content} {line : LinkLine}
    (h : .link line :: rest <:+: quoteLine bare) : .link line :: rest <:+: bare := by
  unfold quoteLine at h
  split at h
  · simp [List.infix_cons_iff] at h
  · exact h
  · simpa [List.infix_cons_iff] using h

/-- Without link lines, the lines of a content are made of its characters. -/
theorem mem_of_mem_parted (h : ∀ atom ∈ content, !atom.isLink) {x : Char}
    (hx : x ∈ parted content) : .char x ∈ content := by
  obtain ⟨atom, hatom, hx⟩ := List.mem_flatMap.1 hx
  have hlink := h atom hatom
  cases atom with
  | char y => rwa [List.mem_singleton.1 hx]
  | link line => cases hlink
  | _ => cases hx

/-- What stands in front of the first link line of a quoted line. -/
theorem steady_marked {front : Content} (hnewline : .char '\n' ∉ front)
    (h : ∀ atom ∈ front, !atom.isLink) : Steady (parted (.char '>' :: .char ' ' :: front)) := by
  refine lineCount_of_not_mem (fun hmem => ?_)
    (isUnsteady_visible_cons (by decide) (by decide) (' ' :: parted front))
  have hmem : '\n' ∈ parted front := by simpa [parted] using hmem
  exact hnewline (mem_of_mem_parted h hmem)

/-- Behind the first link line of a line a new one begins, which has no marker. -/
theorem steady_quoteLine {bare : Content} (hnewline : .char '\n' ∉ bare)
    (h : ∀ line rest, .link line :: rest <:+: bare → Bland (parted (.link line :: rest))) :
    Steady (parted (quoteLine bare)) := by
  unfold quoteLine
  split
  · -- an empty line is nothing but its marker
    rfl
  · -- a line that begins with a link line has no marker
    exact (h _ _ List.infix_rfl).steady
  · -- the marker begins the line up to the first link line, if there is one
    have hsplit := List.takeWhile_append_dropWhile (p := fun atom => !atom.isLink) (l := bare)
    generalize hfront : bare.takeWhile (fun atom => !atom.isLink) = front at hsplit
    have hmarked : Steady (parted (.char '>' :: .char ' ' :: front)) :=
      steady_marked (fun hmem => hnewline (hsplit ▸ List.mem_append_left _ hmem))
        fun atom hatom => List.all_eq_true.1 List.all_takeWhile atom (hfront ▸ hatom)
    cases hback : bare.dropWhile fun atom => !atom.isLink with
    | nil =>
      rw [hback, List.append_nil] at hsplit
      rwa [← hsplit]
    | cons atom rest =>
      have hlink := List.not_of_dropWhile_eq_cons hback
      rw [hback] at hsplit
      cases atom with
      | link line =>
        have hbland := h line rest ⟨front, [], by simpa using hsplit⟩
        have hbehind : Steady (line.print ++ '\n' :: parted rest) := by
          have hsteady := hbland.steady
          rwa [parted_link, Steady, lineCount_newline_cons ignoresEnd_isUnsteady] at hsteady
        have hlines : parted (.char '>' :: .char ' ' :: bare) =
            '>' :: ' ' :: parted front ++ '\n' :: (line.print ++ '\n' :: parted rest) := by
          rw [← hsplit, ← parted_link]
          exact congrArg ('>' :: ' ' :: ·) (parted_append front _)
        rw [hlines]
        exact hmarked.append_cons hbehind
      | _ => cases hlink

/-- A marked line begins visibly, with its marker or with a link line. -/
theorem exists_quoteLine_eq_cons (bare : Content) :
    ∃ atom rest, quoteLine bare = atom :: rest ∧ atom.isBlank = false := by
  unfold quoteLine
  split
  · exact ⟨.char '>', [], rfl, by decide⟩
  · exact ⟨_, _, rfl, rfl⟩
  · exact ⟨.char '>', _, rfl, by decide⟩

/-- The first line of a quotation begins visibly. -/
theorem trimStart_quoted (content : Content) : (quoted content).trimStart = quoted content := by
  cases hlines : quotedLines content with
  | nil => simp [quoted, hlines, trimStart]
  | cons line lines =>
    obtain ⟨bare, -, -, rfl⟩ := exists_of_mem_quotedLines (hlines ▸ List.mem_cons_self)
    obtain ⟨atom, rest, hquote, hblank⟩ := exists_quoteLine_eq_cons bare
    have hhead : ∃ more, quoted content = atom :: more := by
      rw [quoted, hlines, hquote]
      cases lines <;> exact ⟨_, rfl⟩
    obtain ⟨more, hmore⟩ := hhead
    rw [hmore, trimStart, List.dropWhile_cons_of_neg (by simp [hblank])]

/-- Trimming a quotation takes away blank characters behind its last line. -/
theorem steady_trim_quoted
    (h : Steady (parted (Content.joinWith ['\n'] (quotedLines content)))) :
    Steady (parted (quoted content).trim.resolveHardBreaks) := by
  obtain ⟨blanks, hquoted, hblanks⟩ :=
    List.exists_dropWhile_reverse_append Atom.isBlank (quoted content)
  have htrim : quoted content = (quoted content).trim ++ blanks := by
    rw [trim, trimStart_quoted, trimEnd, ← hquoted]
  -- hard breaks are not blank, so none is taken away
  have hsame : resolveHardBreaks blanks = blanks :=
    resolveHardBreaks_of_unbroken (filter_of_isBlank (fun _ => rfl) hblanks)
  have hresolved : (quoted content).resolveHardBreaks =
      (quoted content).trim.resolveHardBreaks ++ blanks := by
    calc (quoted content).resolveHardBreaks
        = ((quoted content).trim ++ blanks).resolveHardBreaks := by rw [← htrim]
      _ = (quoted content).trim.resolveHardBreaks ++ resolveHardBreaks blanks := List.map_append
      _ = (quoted content).trim.resolveHardBreaks ++ blanks := by rw [hsame]
  have hblank : ∀ x ∈ parted blanks, isBlank x := fun x hx => by
    refine hblanks _ (mem_of_mem_parted (fun atom hatom => ?_) hx)
    obtain ⟨y, rfl, -⟩ := exists_char_of_isBlank (hblanks atom hatom)
    rfl
  have hcount := lineCount_append_blank ignoresEnd_isUnsteady hblank
    (parted (quoted content).trim.resolveHardBreaks)
  rw [← resolveHardBreaks_quoted, hresolved, parted_append] at h
  exact hcount.symm.trans h

/-- A tidy quotation stands alone. -/
theorem standsAlone_blockQuote (h : Tidy content) : StandsAlone (blockQuote content) := by
  rw [blockQuote_eq]
  refine .paragraphRegion (boundary_not_mem_quoted content) ?_
  rw [newlinesToSpaces_trim_quoted]
  refine steady_trim_quoted ?_
  rw [parted_joinWith]
  refine .joinWith fun piece hpiece => ?_
  obtain ⟨line, hline, rfl⟩ := List.mem_map.1 hpiece
  obtain ⟨bare, hbare, hnewline, rfl⟩ := exists_of_mem_quotedLines hline
  refine steady_quoteLine hnewline fun line rest hcut =>
    h.behind line rest (hcut.trans hbare) fun hmem => ?_
  exact hnewline (hcut.mem (List.mem_cons_of_mem _ hmem))

/-- The lines of a quotation hold behind a link line what those of its content do. -/
theorem behind_quotedLines {ok : Content → Prop} (h : Behind ok content.flattenBlocks) :
    Behind ok (Content.joinWith ['\n'] (quotedLines content)) := fun line rest hcut hrest => by
  have hnewline : .char '\n' ∉ .link line :: rest := by simp [hrest]
  obtain ⟨quote, hquote, hcut⟩ := exists_isInfix_of_isInfix_joinWith hnewline hcut
  obtain ⟨bare, hbare, -, rfl⟩ := exists_of_mem_quotedLines hquote
  exact h line rest ((isInfix_of_isInfix_quoteLine hcut).trans hbare) hrest

/-- What stands behind link lines stands behind them in a quotation, too. -/
theorem tidy_blockQuote {ok : Content → Prop} (h : TidyFor ok content) :
    TidyFor ok (blockQuote content) where
  ended := by
    rw [flattenBlocks_blockQuote]
    exact .inr ⟨.char '\n' :: Content.joinWith ['\n'] (quotedLines content), rfl⟩
  behind line rest hcut hrest := by
    have hnewline : .char '\n' ∉ .link line :: rest := by simp [hrest]
    rw [flattenBlocks_blockQuote, List.infix_cons_iff] at hcut
    -- a link line is none of the newlines around the lines of the quotation
    rcases hcut with hfront | hcut
    · simp [List.prefix_cons_iff] at hfront
    · rcases List.isInfix_or_isInfix_of_append_cons hnewline hcut with hlines | hnil
      · exact behind_quotedLines h.behind line rest hlines hrest
      · simp at hnil

/-! ## Lists -/

/-- The lines of a bland content are bland. -/
theorem bland_of_mem_lines {line : Content} (h : Bland (parted content))
    (hline : line ∈ content.lines) : Bland (parted line) :=
  h.of_isInfix (parted_isInfix (isInfix_of_mem_lines hline))

/-- The content of an item is put on one line, and stays bland. -/
theorem bland_listItem (h : Bland (parted content.flattenBlocks)) :
    Bland (parted (listItem content)) := by
  rw [listItem, parted_append, parted_joinWith]
  refine Bland.append_newline (.joinWith (fun piece hpiece => ?_) (by decide) (by decide)) .nil
  obtain ⟨line, hline, rfl⟩ := List.mem_map.1 hpiece
  obtain ⟨source, hsource, rfl⟩ := List.mem_map.1 (List.mem_filter.1 hline).1
  exact (bland_of_mem_lines h hsource).of_isInfix (parted_isInfix (Content.trim_isInfix source))

/-- So is that of an item with a box. -/
theorem bland_taskListItem (checked : Bool) (h : Bland (parted content.flattenBlocks)) :
    Bland (parted (taskListItem c content checked)) := by
  let item := ofText (checkbox c checked ++ [' ']) ++ content.flattenBlocks.trim
  -- the item is flattened already, and flattening it once more changes nothing
  have hunbroken : item.filter Atom.isBreak = [] := by
    rw [List.filter_append, filter_ofText fun _ => rfl, filter_trim fun _ => rfl,
      filter_isBreak_flattenBlocks]
    rfl
  have hitem : Bland (parted item.flattenBlocks) := by
    rw [flattenBlocks_of_unbroken hunbroken, parted_append, parted_ofText]
    refine .append_left ?_ (h.of_isInfix (parted_isInfix (Content.trim_isInfix _)))
    unfold checkbox
    split <;> rfl
  exact bland_listItem hitem

/-- The entry of a list shows no fence. -/
structure BlandEntry (e : ListEntry) : Prop extends ListedEntry e where
  bland : Bland (parted e.content)
  blandNested : Bland (parted e.nested)

/-- Each line is made of a marker and an item, or is taken over from a nested list. -/
theorem bland_listLines {indent : Text} (hindent : indent.isTame) (ordered : Bool) {number : Nat}
    {entries : List ListEntry} (h : ∀ e ∈ entries, BlandEntry e) {line : Content}
    (hline : line ∈ listLines indent ordered number entries) : Bland (parted line) := by
  obtain ⟨e, he, hnested | ⟨k, rfl⟩⟩ := mem_listLines hline
  · exact bland_of_mem_lines (h e he).blandNested hnested
  · -- the marker and the line of the item itself
    rw [parted_append, parted_ofText]
    exact .append_left (Text.isTame_append hindent (isTame_listMarker ordered k))
      ((h e he).bland.of_isInfix (parted_isInfix (Content.trim_isInfix _)))

/-- The lines of a list are bland together. -/
theorem bland_joinWith_listLines (hblank : ∀ x ∈ c.indent, x = ' ' ∨ x = '\t')
    {entries : List ListEntry} (h : ∀ e ∈ entries, BlandEntry e) (ordered : Bool)
    (level start : Nat) : Bland (parted (Content.joinWith ['\n']
      (listLines (Text.times level c.indent) ordered start entries))) := by
  have hindent := isTame_indent hblank level
  rw [parted_joinWith]
  refine .joinWith (fun piece hpiece => ?_) (by decide) (by decide)
  obtain ⟨line, hline, rfl⟩ := List.mem_map.1 hpiece
  exact bland_listLines hindent ordered h hline

/-- A list of bland entries. -/
theorem blandBlock_list (hblank : ∀ x ∈ c.indent, x = ' ' ∨ x = '\t') {entries : List ListEntry}
    (h : ∀ e ∈ entries, BlandEntry e) (ordered : Bool) (level start : Nat) :
    BlandBlock (list c entries ordered level start) ∧
      StandsAlone (list c entries ordered level start) := by
  have hunbroken := (listed_list hblank (fun e he => (h e he).toListedEntry) ordered level
    start).unbroken
  have hlines := bland_joinWith_listLines hblank h ordered (level - 1) start
  -- without hard breaks and boundaries, the lines are laid out as they are joined
  rw [list, List.filter_append, List.append_eq_nil_iff] at hunbroken
  rw [← flattenBlocks_of_unbroken hunbroken.1] at hlines
  refine ⟨.append_blankLine hlines, .append_blankLine (noBoundary_of_unbroken hunbroken.1) ?_⟩
  rw [resolveHardBreaks_eq_flattenBlocks (noBoundary_of_unbroken hunbroken.1)]
  exact hlines.steady

/-- An item with bland children is a bland entry. -/
theorem blandEntry_itemCall {s : RenderState} (kind : Markdown.NodeKind) (level : Nat)
    {nested : Content} (hcontent : Bland (parted content.flattenBlocks))
    (hnested : BlandBlock nested) (hlisted : Listed nested) :
    BlandEntry ⟨(itemCall (gemtextRenderer c) kind content level s).1, nested⟩ where
  toListedEntry := listedEntry_itemCall kind content level hlisted
  bland := by
    cases kind with
    | taskItem symbol => exact bland_taskListItem symbol.isSome hcontent
    | _ => exact bland_listItem hcontent
  blandNested := by
    have hbland := hnested.bland
    rwa [flattenBlocks_of_unbroken hlisted.unbroken] at hbland

end Render

end Gemtext
