import Gemtext.Proofs.Layout.Seams

/-!
# The line after a link line

A line of the document that follows a link line is not indented, unless the link line stands in a
fence (`not_isIndented_layout`).

`LinksFollowed` says this of a list of lines with the two states that `stripLinesAfterLinks`
carries, so the stripping pass establishes it by its own recursion.  The passes behind it take
blank characters away at both ends of the document and empty lines inside it; each of them keeps
the fence state of the lines that are left, and what follows a link line is either the line that
followed it before or an empty one.
-/

namespace Gemtext

open Text

namespace Layout

/-- Whether the line begins with a blank character. -/
def isIndented (line : Text) : Bool :=
  line.head?.any isBlank

/-- Whether the line behind these lines stands in a fence, if the first of them has the state
`inFence`: a line that begins like a fence opens or closes it. -/
def fenceAfter (inFence : Bool) (lines : List Text) : Bool :=
  lines.foldl (fun inside line => inside ^^ isFence line) inFence

/-- Every line that follows a link line outside a fence is unindented.  `inFence` is the fence state
before the first line, and `strip` tells whether it follows such a link line. -/
inductive LinksFollowed : Bool → Bool → List Text → Prop
  | nil (inFence strip : Bool) : LinksFollowed inFence strip []
  | cons {inFence strip : Bool} {line : Text} {rest : List Text}
      (hline : strip → isIndented line = false)
      (hrest : LinksFollowed (inFence ^^ isFence line) (!inFence && startsLink line) rest) :
      LinksFollowed inFence strip (line :: rest)

variable {inFence strip : Bool}

/-! ## What the property says -/

/-- An empty line says nothing about the fence or about links. -/
theorem linksFollowed_nil_cons {rest : List Text} :
    LinksFollowed inFence strip ([] :: rest) ↔ LinksFollowed inFence false rest := by
  have hstates : LinksFollowed (inFence ^^ isFence []) (!inFence && startsLink []) rest ↔
      LinksFollowed inFence false rest := by
    simp [isFence, fence, startsLink]
  constructor
  · rintro (_ | ⟨-, hrest⟩)
    exact hstates.1 hrest
  · exact fun hrest => .cons (fun _ => rfl) (hstates.2 hrest)

/-- The line after a link line, found at any place. -/
theorem LinksFollowed.not_isIndented {before after : List Text} {line next : Text}
    (h : LinksFollowed inFence strip (before ++ line :: next :: after)) (hlink : startsLink line)
    (hfence : fenceAfter inFence before = false) : isIndented next = false := by
  induction before generalizing inFence strip with
  | nil =>
    rw [fenceAfter, List.foldl_nil] at hfence
    obtain _ | ⟨-, _ | ⟨hnext, -⟩⟩ := h
    exact hnext (by simp [hfence, hlink])
  | cons first rest ih =>
    obtain _ | ⟨-, hrest⟩ := h
    exact ih hrest hfence

/-! ## Each pass -/

/-- What is left of a line begins visibly. -/
theorem not_isIndented_trimStart (line : Text) : isIndented line.trimStart = false := by
  cases h : line.trimStart with
  | nil => rfl
  | cons c rest =>
    have hc : isBlank c = false := List.not_of_dropWhile_eq_cons h
    simp [isIndented, hc]

/-- The stripping pass looks at the lines in the same way, and trims what follows a link line. -/
theorem linksFollowed_stripLinesAfterLinks (inFence strip : Bool) (lines : List Text) :
    LinksFollowed inFence strip (stripLinesAfterLinks inFence strip lines) := by
  induction lines generalizing inFence strip with
  | nil => exact .nil inFence strip
  | cons line rest ih =>
    obtain ⟨shown, hshown, heq⟩ := stripLinesAfterLinks_cons inFence strip line rest
    rw [heq]
    refine .cons (fun hstrip => ?_) (ih _ _)
    rw [hshown, if_pos hstrip]
    exact not_isIndented_trimStart line

/-- What is cut off at the end shortens the last line, or takes lines away behind it. -/
theorem LinksFollowed.of_append {s t : Text}
    (h : LinksFollowed inFence strip (splitOn '\n' (s ++ t))) :
    LinksFollowed inFence strip (splitOn '\n' s) := by
  induction s using lineInduction generalizing inFence strip with
  | last line hline =>
    -- the last line keeps its first character, and nothing follows it
    rw [splitOn_of_not_mem hline]
    refine .cons (fun hstrip => ?_) (.nil _ _)
    cases line with
    | nil => rfl
    | cons c rest =>
      obtain ⟨first, more, hsplit⟩ := List.exists_cons_of_ne_nil (splitOn_ne_nil '\n' (rest ++ t))
      have hc : c ≠ '\n' := fun hc => hline (by simp [hc])
      rw [List.cons_append, splitOn, if_neg hc, hsplit] at h
      obtain _ | ⟨hfirst, -⟩ := h
      exact hfirst hstrip
  | cons line rest hline ih =>
    rw [List.append_assoc, List.cons_append, splitOn_piece_cons hline] at h
    rw [splitOn_piece_cons hline]
    obtain _ | ⟨hfirst, hrest⟩ := h
    exact .cons hfirst (ih hrest)

/-- The terminators that `trimDocument` takes away in front. -/
def leadingTerminators (s : Text) : Text :=
  s.trimEnd.takeWhile fun c => c == '\r' || c == '\n'

/-- What is taken away in front is line terminators. -/
theorem eq_of_mem_leadingTerminators {s : Text} {c : Char} (h : c ∈ leadingTerminators s) :
    c = '\r' ∨ c = '\n' := by
  have hc := List.all_eq_true.1 List.all_takeWhile c h
  simpa only [Bool.or_eq_true, beq_iff_eq] using hc

/-- Without carriage returns, what is taken away in front is ended lines. -/
theorem endsLine_leadingTerminators {s : Text} (hs : '\r' ∉ s) :
    (leadingTerminators s).EndsLine := by
  rcases List.eq_nil_or_concat (leadingTerminators s) with hnil | ⟨lines, c, hconcat⟩
  · exact .inl hnil
  · have hmem : c ∈ leadingTerminators s := by simp [hconcat]
    have hin : c ∈ s := (trimEnd_isPrefix s).mem ((List.takeWhile_sublist _).mem hmem)
    refine .inr ⟨lines, ?_⟩
    rcases eq_of_mem_leadingTerminators hmem with rfl | rfl
    · exact absurd hin hs
    · rw [hconcat, List.concat_eq_append]

/-- Lines of carriage returns are no fences and no link lines. -/
theorem LinksFollowed.of_terminators {lines rest : Text} (hlines : ∀ c ∈ lines, c = '\r' ∨ c = '\n')
    (h : LinksFollowed false false (splitOn '\n' (lines ++ '\n' :: rest))) :
    LinksFollowed false false (splitOn '\n' rest) := by
  -- a line of terminators is neither a fence nor a link line
  have hplain {line : Text} (hn : '\n' ∉ line) (hline : ∀ c ∈ line, c = '\r' ∨ c = '\n') :
      isFence line = false ∧ startsLink line = false := by
    cases line with
    | nil => exact ⟨rfl, rfl⟩
    | cons c tail =>
      obtain rfl : c = '\r' :=
        (hline c List.mem_cons_self).resolve_right fun hc => hn (by simp [hc])
      exact ⟨rfl, rfl⟩
  induction lines using lineInduction with
  | last line hn =>
    obtain ⟨hfence, hlink⟩ := hplain hn hlines
    rw [splitOn_piece_cons hn] at h
    obtain _ | ⟨-, hrest⟩ := h
    rwa [hfence, hlink] at hrest
  | cons line others hn ih =>
    obtain ⟨hline, hothers⟩ := List.forall_mem_append.1 hlines
    obtain ⟨hfence, hlink⟩ := hplain hn hline
    rw [List.append_assoc, List.cons_append, splitOn_piece_cons hn] at h
    obtain _ | ⟨-, hrest⟩ := h
    rw [hfence, hlink] at hrest
    exact ih (List.forall_mem_cons.1 hothers).2 hrest

/-- Trimming keeps the property unless it cuts into a line in front, which may then turn out to be a
link line or a fence. -/
theorem LinksFollowed.trimDocument {s : Text} (hs : (leadingTerminators s).EndsLine)
    (h : LinksFollowed false false (splitOn '\n' s)) :
    LinksFollowed false false (splitOn '\n' (trimDocument s)) := by
  obtain ⟨blanks, hblanks⟩ := trimEnd_isPrefix s
  rw [← hblanks] at h
  have hend := h.of_append
  -- the blank end is off, and the terminators in front are still to be taken away
  have hcut : s.trimEnd = leadingTerminators s ++ Layout.trimDocument s :=
    List.takeWhile_append_dropWhile.symm
  rw [hcut] at hend
  rcases hs with hnone | ⟨lines, hlines⟩
  · rwa [hnone, List.nil_append] at hend
  · rw [hlines, List.append_assoc, List.singleton_append] at hend
    refine hend.of_terminators fun c hc => eq_of_mem_leadingTerminators (s := s) ?_
    rw [hlines]
    exact List.mem_append_left _ hc

/-- An empty line is only taken away behind another one, so a line that follows a link line is not
among them, and it keeps its place. -/
theorem LinksFollowed.limitNewlines {s : Text} {seen : Nat} (hseen : strip → seen < 2)
    (h : LinksFollowed inFence strip (splitOn '\n' s)) :
    LinksFollowed inFence strip (splitOn '\n' (limitNewlines seen s)) := by
  induction s using lineInduction generalizing inFence strip seen with
  | last line hline => rwa [limitNewlines_of_not_mem hline]
  | cons line rest hline ih =>
    rw [splitOn_piece_cons hline] at h
    rcases limitNewlines_line hline seen rest with ⟨rfl, htwo, heq⟩ | ⟨now, hnow, heq⟩
    · -- the newline that goes is a third one, so no link line stands before it
      have hstrip : strip = false := Bool.eq_false_iff.2 fun hstrip => by
        have := hseen hstrip
        omega
      rw [heq, hstrip]
      exact ih nofun (linksFollowed_nil_cons.1 h)
    · rw [heq, splitOn_piece_cons hline]
      obtain _ | ⟨hfirst, hrest⟩ := h
      -- the newline that stays is the first behind its line, unless the line is empty
      refine .cons hfirst (ih (fun hlink => ?_) hrest)
      rcases hnow with ⟨rfl, -⟩ | ⟨-, rfl⟩
      · simp [startsLink] at hlink
      · omega

/-- The stripping pass makes the property true, and the passes behind it keep it, unless trimming
cuts into a line. -/
theorem linksFollowed_of_endsLine {s : Text}
    (hs : (leadingTerminators (stripAfterLinks s)).EndsLine) :
    LinksFollowed false false
      (splitOn '\n' (Layout.limitNewlines 0 (Layout.trimDocument (stripAfterLinks s)))) := by
  have hstrip : LinksFollowed false false (splitOn '\n' (stripAfterLinks s)) := by
    rw [splitOn_stripAfterLinks]
    exact linksFollowed_stripLinesAfterLinks false false _
  have htrim := hstrip.trimDocument hs
  exact htrim.limitNewlines (by simp)

/-- The passes behind the stripping keep what it has established. -/
theorem linksFollowed_passes {s : Text} (hs : '\r' ∉ stripAfterLinks s) :
    LinksFollowed false false
      (splitOn '\n' (Layout.limitNewlines 0 (Layout.trimDocument (stripAfterLinks s)))) :=
  linksFollowed_of_endsLine (endsLine_leadingTerminators hs)

/-! ## The characters of the document -/

/-- Ending a line puts in nothing but a newline. -/
theorem mem_endLine {written : Text} {c : Char} (hc : c ≠ '\n') (h : c ∈ endLine written) :
    c ∈ written := by
  unfold endLine at h
  split at h
  · exact h
  · exact h
  · rcases List.mem_cons.1 h with rfl | h
    · exact absurd rfl hc
    · exact (List.dropWhile_sublist _).mem h

/-- Isolating the link lines puts in newlines only. -/
theorem mem_isolateLinksAfter {written : Text} {afterLink : Bool} {content : Content} {c : Char}
    (hc : c ≠ '\n') (h : c ∈ isolateLinksAfter written afterLink content) :
    c ∈ written ∨ c ∈ content.flatMap Atom.print := by
  induction content generalizing written afterLink with
  | nil => exact .inl (List.mem_reverse.1 h)
  | cons atom rest ih =>
    rw [List.flatMap_cons, List.mem_append, ← or_assoc]
    cases atom with
    | char x =>
      rw [isolateLinksAfter] at h
      -- a character is written behind a newline of its own, or as it is
      split at h
      · refine (ih h).imp_left fun h => ?_
        simp only [List.mem_cons, hc, false_or] at h
        exact h.symm.imp_right fun h => List.mem_singleton.2 h
      · refine (ih h).imp_left fun h => ?_
        exact (List.mem_cons.1 h).symm.imp_right fun h => List.mem_singleton.2 h
    | link line =>
      rw [isolateLinksAfter] at h
      refine (ih h).imp_left fun h => ?_
      exact (List.mem_append.1 h).symm.imp (mem_endLine hc) List.mem_reverse.1
    | _ => exact (ih h).imp_left .inl

/-- The stripped text has no characters of its own. -/
theorem mem_stripAfterLinks {s : Text} {c : Char} (hc : c ≠ '\n') (h : c ∈ stripAfterLinks s) :
    c ∈ s := by
  rcases mem_joinWith h with h | ⟨line, hline, h⟩
  · exact absurd (List.mem_singleton.1 h) hc
  · obtain ⟨before, hbefore, h⟩ := mem_of_mem_stripLinesAfterLinks hline h
    exact (mem_and_ne_of_mem_splitOn hbefore h).1

open Content in
/-- Up to the stripping pass, only spaces and newlines are put in. -/
theorem not_mem_stripAfterLinks {fragments trailing : List Fragment} {c : Char} (hn : c ≠ '\n')
    (hs : c ≠ ' ') (hc : c ∉ (fragments ++ trailing).flatMap Fragment.print) :
    c ∉ stripAfterLinks (isolateLinks
      ((ofFragments fragments).layoutParagraphs.resolveHardBreaks ++ ofFragments trailing)) := by
  -- it would come from the fragments, or be a space or a newline of the paragraphs
  intro hmem
  rcases mem_isolateLinksAfter hn (mem_stripAfterLinks hn hmem) with h | h
  · exact List.not_mem_nil h
  rw [List.flatMap_append, List.mem_append, flatMap_print_resolveHardBreaks] at h
  rw [List.flatMap_append, List.mem_append, ← flatMap_print_ofFragments,
    ← flatMap_print_ofFragments] at hc
  refine hc (h.imp_left fun h => ?_)
  obtain ⟨atom, hatom, h⟩ := List.mem_flatMap.1 h
  rcases mem_layoutParagraphs hatom with hatom | rfl | rfl
  · exact List.mem_flatMap.2 ⟨atom, hatom, h⟩
  · exact absurd (List.mem_singleton.1 h) hs
  · exact absurd (List.mem_singleton.1 h) hn

/-- The passes behind it put nothing in. -/
theorem not_mem_limitNewlines {s : Text} {c : Char} (hc : c ∉ s) :
    c ∉ Layout.limitNewlines 0 (Layout.trimDocument s) := by
  intro hmem
  have hmem := (List.dropWhile_sublist _).mem ((limitNewlines_sublist 0 _).mem hmem)
  exact hc ((trimEnd_isPrefix s).mem hmem)

end Layout

open Content Layout in
/-- A line that follows a link line of the document is not indented, if the link line stands
outside a fence and no fragment holds a carriage return. -/
theorem not_isIndented_layout (fragments trailing : List Fragment)
    (hreturn : '\r' ∉ (fragments ++ trailing).flatMap Fragment.print)
    {before after : List Text} {line next : Text}
    (hlines : (layout (ofFragments fragments) (ofFragments trailing)).lines =
      before ++ line :: next :: after)
    (hlink : startsLink line) (hfence : fenceAfter false before = false) :
    isIndented next = false := by
  have hstripped := not_mem_stripAfterLinks (by decide) (by decide) hreturn
  have hfollowed := linksFollowed_passes hstripped
  obtain ⟨more, hmore⟩ := exists_splitOn_eq_lines_append (not_mem_limitNewlines hstripped)
  rw [layout] at hlines
  rw [hmore, hlines, List.append_assoc] at hfollowed
  exact hfollowed.not_isIndented hlink hfence

open Content Layout in
/-- Lines in a fence are left alone, and the text after the link line behind it is unindented. -/
theorem not_isIndented_layout_after_fence :
    '\r' ∉ ([Fragment.text "```\n=> x\n  y\n```\n".toList, .link (.ofTrimmed ['u'] none),
        .text "  z".toList] ++ []).flatMap Fragment.print ∧
      (layout (ofFragments [.text "```\n=> x\n  y\n```\n".toList, .link (.ofTrimmed ['u'] none),
          .text "  z".toList]) (ofFragments [])).lines =
        ["```".toList, "=> x".toList, "  y".toList, "```".toList] ++ "=> u".toList :: ['z'] :: [] ∧
      startsLink "=> u".toList ∧
      fenceAfter false ["```".toList, "=> x".toList, "  y".toList, "```".toList] = false ∧
      isIndented ['z'] = false := by
  have hreturn : '\r' ∉ ([Fragment.text "```\n=> x\n  y\n```\n".toList,
      .link (.ofTrimmed ['u'] none), .text "  z".toList] ++ []).flatMap Fragment.print := by decide
  have hlines : (layout (ofFragments [.text "```\n=> x\n  y\n```\n".toList,
      .link (.ofTrimmed ['u'] none), .text "  z".toList]) (ofFragments [])).lines =
        ["```".toList, "=> x".toList, "  y".toList, "```".toList] ++
          "=> u".toList :: ['z'] :: [] := by
    decide
  have hlink : startsLink "=> u".toList := by decide
  have hfence :
      fenceAfter false ["```".toList, "=> x".toList, "  y".toList, "```".toList] = false := by
    decide
  exact ⟨hreturn, hlines, hlink, hfence, not_isIndented_layout _ _ hreturn hlines hlink hfence⟩

end Gemtext
