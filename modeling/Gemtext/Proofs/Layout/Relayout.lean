import Gemtext.Proofs.Layout.AfterLinks
import Gemtext.Proofs.Layout.Normalized

/-!
# Laying out a document again

A document that is laid out once more, as a text, has no regions, hard breaks or link lines left,
and its form leaves nothing to trim and no newline too many.  So only the stripping pass can change
it, which it does as soon as an indented line follows a link line outside a fence
(`stripAfterLinks_eq_self_iff`).

A document holds no such line, unless trimming cut into its first line: a carriage return in front
of `=>` or of a fence hides it from the stripping pass, and trimming, which comes later, brings it
to light.  So a document that begins with such a line need not be laid out to itself
(`layout_layout`, `layout_layout_return`).
-/

namespace Gemtext

open Text

namespace Layout

variable {inFence strip : Bool}

/-! ## What the stripping pass leaves alone -/

/-- Trimming leaves exactly the lines alone that are not indented. -/
theorem trimStart_eq_self_iff {line : Text} : line.trimStart = line ↔ isIndented line = false := by
  cases line with
  | nil => exact ⟨fun _ => rfl, fun _ => rfl⟩
  | cons c rest =>
    constructor
    · intro h
      rw [← h]
      exact not_isIndented_trimStart (c :: rest)
    · intro h
      have hc : isBlank c = false := by simpa [isIndented] using h
      exact List.dropWhile_cons_of_neg (by simp [hc])

/-- The pass changes no line exactly if none that follows a link line is indented. -/
theorem stripLinesAfterLinks_eq_self_iff {lines : List Text} :
    stripLinesAfterLinks inFence strip lines = lines ↔ LinksFollowed inFence strip lines := by
  induction lines generalizing inFence strip with
  | nil => exact ⟨fun _ => .nil inFence strip, fun _ => rfl⟩
  | cons line rest ih =>
    obtain ⟨shown, hshown, heq⟩ := stripLinesAfterLinks_cons inFence strip line rest
    -- the line stays exactly if it is not indented where that counts
    have hsame : shown = line ↔ (strip → isIndented line = false) := by
      cases strip with
      | false => simpa using hshown
      | true => simpa [hshown] using trimStart_eq_self_iff
    rw [heq, List.cons.injEq, hsame]
    constructor
    · rintro ⟨hline, hrest⟩
      rw [hsame.2 hline] at hrest
      exact .cons hline (ih.1 hrest)
    · rintro (_ | ⟨hline, hrest⟩)
      refine ⟨hline, ?_⟩
      rw [hsame.2 hline]
      exact ih.2 hrest

/-- Every line behind a link line outside a fence, at any place, is unindented. -/
theorem linksFollowed_iff {lines : List Text} :
    LinksFollowed inFence strip lines ↔
      (∀ line ∈ lines.head?, strip → isIndented line = false) ∧
        ∀ before line next after, lines = before ++ line :: next :: after → startsLink line →
          fenceAfter inFence before = false → isIndented next = false := by
  constructor
  · intro h
    refine ⟨fun line hline => ?_, ?_⟩
    · cases h with
      | nil => cases hline
      | cons hfirst _ =>
        obtain rfl := Option.some.inj hline
        exact hfirst
    · rintro before line next after rfl hlink hfence
      exact h.not_isIndented hlink hfence
  · -- the state before a line is that behind the lines before it
    rintro ⟨hfirst, hlater⟩
    induction lines generalizing inFence strip with
    | nil => exact .nil inFence strip
    | cons line rest ih =>
      refine .cons (hfirst line rfl) (ih (fun next hnext hlink => ?_) ?_)
      · cases rest with
        | nil => cases hnext
        | cons _ after =>
          obtain rfl := Option.some.inj hnext
          rw [Bool.and_eq_true, Bool.not_eq_true'] at hlink
          exact hlater [] line _ after rfl hlink.2 hlink.1
      · rintro before other next after rfl hlink hfence
        exact hlater (line :: before) other next after rfl hlink hfence

/-- No line of the text that follows a link line outside a fence is indented. -/
def UnindentedAfterLinks (s : Text) : Prop :=
  ∀ before line next after, splitOn '\n' s = before ++ line :: next :: after → startsLink line →
    fenceAfter false before = false → isIndented next = false

/-- Before the first line no fence is open, and no link line stands. -/
theorem linksFollowed_iff_unindentedAfterLinks {s : Text} :
    LinksFollowed false false (splitOn '\n' s) ↔ UnindentedAfterLinks s := by
  rw [linksFollowed_iff, UnindentedAfterLinks]
  simp

/-- Stripping leaves exactly the texts alone that have no indented line behind a link line. -/
theorem stripAfterLinks_eq_self_iff {s : Text} :
    stripAfterLinks s = s ↔ UnindentedAfterLinks s := by
  rw [← linksFollowed_iff_unindentedAfterLinks, ← stripLinesAfterLinks_eq_self_iff,
    ← splitOn_stripAfterLinks]
  constructor
  · intro h
    rw [h]
  · intro h
    rw [← joinWith_splitOn '\n' (stripAfterLinks s), h, joinWith_splitOn]

/-- Where no line is indented there is nothing to strip. -/
theorem stripAfterLinks_of_unindented {s : Text}
    (h : ∀ line ∈ splitOn '\n' s, isIndented line = false) : stripAfterLinks s = s := by
  refine stripAfterLinks_eq_self_iff.2 fun before line next after hlines _ _ => h next ?_
  simp [hlines]

/-- A framed line is not indented. -/
theorem isIndented_of_framed {line : Text} (h : Framed line) : isIndented line = false :=
  trimStart_eq_self_iff.1 h.trimStart_eq

/-! ## Stripping only takes characters away -/

/-- Stripping only takes characters away. -/
theorem stripLinesAfterLinks_sublist (inFence strip : Bool) (lines : List Text) :
    (joinWith ['\n'] (stripLinesAfterLinks inFence strip lines)).Sublist
      (joinWith ['\n'] lines) := by
  induction lines generalizing inFence strip with
  | nil => exact List.Sublist.refl _
  | cons line rest ih =>
    obtain ⟨shown, hshown, heq⟩ := stripLinesAfterLinks_cons inFence strip line rest
    have hline : shown.Sublist line := by
      rw [hshown]
      split
      · exact List.dropWhile_sublist isBlank
      · exact List.Sublist.refl line
    rw [heq]
    by_cases hrest : rest = []
    · subst hrest
      exact hline
    · rw [joinWith_cons (stripLinesAfterLinks_ne_nil hrest), joinWith_cons hrest]
      exact (hline.append (List.Sublist.refl ['\n'])).append (ih _ _)

/-- The same for a text. -/
theorem stripAfterLinks_sublist (s : Text) : (stripAfterLinks s).Sublist s := by
  have h := stripLinesAfterLinks_sublist false false (splitOn '\n' s)
  rwa [joinWith_splitOn] at h

/-! ## Blank characters at the end -/

/-- A stripped line keeps a blank character at its end, unless it is blank altogether. -/
theorem exists_stripLinesAfterLinks_concat {c : Char} (hc : isBlank c) (inFence strip : Bool)
    (line : Text) :
    ∃ shown more, (∀ d ∈ more, isBlank d) ∧
      stripLinesAfterLinks inFence strip [line] = [shown] ∧
      stripLinesAfterLinks inFence strip [line ++ [c]] = [shown ++ more] := by
  obtain ⟨shown, hshown, heq⟩ := stripLinesAfterLinks_cons inFence strip line []
  obtain ⟨longer, hlonger, heq'⟩ := stripLinesAfterLinks_cons inFence strip (line ++ [c]) []
  refine ⟨shown, if strip ∧ trimStart line = [] then [] else [c], ?_, heq, ?_⟩
  · split
    · exact List.forall_mem_nil _
    · simpa using hc
  · rw [heq', hlonger, hshown, trimStart, trimStart, List.dropWhile_append]
    -- a blank line that is stripped loses the character with the rest
    cases strip with
    | false => rfl
    | true =>
      by_cases hnil : line.dropWhile isBlank = []
      · simp [hnil, hc, stripLinesAfterLinks]
      · simp [hnil, stripLinesAfterLinks]

/-- A blank character behind a text opens an empty line, or stands at the end of the last one. -/
theorem exists_stripAfterLinks_concat {c : Char} (hc : isBlank c) (s : Text) :
    ∃ more, (∀ d ∈ more, isBlank d) ∧ stripAfterLinks (s ++ [c]) = stripAfterLinks s ++ more := by
  by_cases hn : c = '\n'
  · subst hn
    -- a newline ends the last line, and an empty one stands behind it
    have hempty (inFence strip : Bool) : stripLinesAfterLinks inFence strip [[]] = [[]] := by
      cases strip <;> cases inFence <;> rfl
    have hlines : splitOn '\n' (s ++ ['\n']) = splitOn '\n' s ++ [[]] := splitOn_append_cons s []
    refine ⟨['\n'], by simp [isBlank], ?_⟩
    rw [stripAfterLinks, hlines, stripLinesAfterLinks_append, hempty, joinWith_append
      (stripLinesAfterLinks_ne_nil (splitOn_ne_nil '\n' s)) (List.cons_ne_nil _ _)]
    exact List.append_nil _
  · obtain ⟨lines, last, first, others, hs, hfirst, happend, -⟩ :=
      List.exists_splitOn_append '\n' s [c]
    have hchar : List.splitOn '\n' [c] = [[c]] :=
      List.splitOn_eq_singleton (by simpa using Ne.symm hn)
    obtain ⟨rfl, rfl⟩ : first = [c] ∧ others = [] := by simpa [hchar, eq_comm] using hfirst
    rw [← splitOn_eq_list] at hs happend
    rw [stripAfterLinks, stripAfterLinks, hs, happend, stripLinesAfterLinks_append,
      stripLinesAfterLinks_append]
    obtain ⟨shown, more, hmore, hshort, hlong⟩ := exists_stripLinesAfterLinks_concat hc
      (stateBehind false false lines).1 (stateBehind false false lines).2 last
    exact ⟨more, hmore, by rw [hshort, hlong, joinWith_concat_append]⟩

/-- Blank characters at the end of a text are blank at the end of the stripped one. -/
theorem exists_stripAfterLinks_append_blank {blanks : Text} (hblanks : ∀ c ∈ blanks, isBlank c)
    (s : Text) :
    ∃ more, (∀ c ∈ more, isBlank c) ∧
      stripAfterLinks (s ++ blanks) = stripAfterLinks s ++ more := by
  induction blanks generalizing s with
  | nil => exact ⟨[], nofun, by rw [List.append_nil, List.append_nil]⟩
  | cons c rest ih =>
    obtain ⟨hc, hrest⟩ := List.forall_mem_cons.1 hblanks
    obtain ⟨first, hfirst, hstrip⟩ := exists_stripAfterLinks_concat hc s
    obtain ⟨more, hmore, hstrip'⟩ := ih hrest (s ++ [c])
    refine ⟨first ++ more, List.forall_mem_append.2 ⟨hfirst, hmore⟩, ?_⟩
    rw [← List.append_assoc, ← hstrip, ← hstrip', List.append_assoc, List.singleton_append]

end Layout

/-! ## The second layout -/

open Content Layout

/-- A text has no regions, hard breaks or link lines. -/
theorem layout_ofText (s : Text) :
    layout (ofText s) [] = limitNewlines 0 (trimDocument (stripAfterLinks s)) := by
  have hmark {atom : Atom} (h : ∀ c, Atom.char c ≠ atom) : atom ∉ ofText s := fun hmem => by
    obtain ⟨c, -, hc⟩ := List.mem_map.1 hmem
    exact h c hc
  have hboundary : Atom.boundary ∉ ofText s := hmark fun _ h => by cases h
  have hbreak : Atom.hardBreak ∉ ofText s := hmark fun _ h => by cases h
  rw [layout, layoutParagraphs_of_not_mem hboundary, resolveHardBreaks_of_not_mem hbreak,
    List.append_nil, isolateLinks_ofText]

/-- What is a text once its regions and hard breaks are laid out makes the document of that text. -/
theorem layout_of_laidOut {content : Content} {s : Text}
    (h : content.layoutParagraphs.resolveHardBreaks = ofText s) :
    layout content [] = layout (ofText s) [] := by
  rw [layout_ofText, layout, h, List.append_nil, isolateLinks_ofText]

/-- Blank characters behind a text are trimmed. -/
theorem layout_ofText_append_blank {blanks : Text} (hblanks : ∀ c ∈ blanks, isBlank c) (s : Text) :
    layout (ofText (s ++ blanks)) [] = layout (ofText s) [] := by
  obtain ⟨more, hmore, hstrip⟩ := exists_stripAfterLinks_append_blank hblanks s
  rw [layout_ofText, layout_ofText, hstrip, trimDocument_append_blank hmore]

/-- So are empty lines in front of it. -/
theorem layout_ofText_newline_cons (s : Text) :
    layout (ofText ('\n' :: s)) [] = layout (ofText s) [] := by
  have hstrip : stripAfterLinks ('\n' :: s) = '\n' :: stripAfterLinks s := by
    have hlines : stripLinesAfterLinks false false (splitOn '\n' ('\n' :: s)) =
        [] :: stripLinesAfterLinks false false (splitOn '\n' s) := rfl
    rw [stripAfterLinks, hlines, joinWith_cons
      (stripLinesAfterLinks_ne_nil (splitOn_ne_nil '\n' s)), ← stripAfterLinks]
    rfl
  rw [layout_ofText, layout_ofText, hstrip, trimDocument_newline_cons]

/-- A single text goes through the later passes only. -/
theorem layout_text (s : Text) :
    layout (ofFragments [.text s]) [] = limitNewlines 0 (trimDocument (stripAfterLinks s)) := by
  have hatoms : ofFragments [.text s] = ofText s := List.append_nil _
  rw [hatoms, layout_ofText]

/-- A text in the form of a document is laid out to itself unless the stripping pass changes it. -/
theorem layout_text_eq_self_iff {s : Text} (hs : s.Normalized) :
    layout (ofFragments [.text s]) [] = s ↔ UnindentedAfterLinks s := by
  rw [layout_text, ← stripAfterLinks_eq_self_iff]
  constructor
  · intro h
    -- all passes take characters away only, so the stripping pass takes none if all leave the text
    have hlimit := limitNewlines_sublist 0 (trimDocument (stripAfterLinks s))
    have htrim : (trimDocument (stripAfterLinks s)).Sublist (stripAfterLinks s) :=
      (List.dropWhile_sublist _).trans (trimEnd_isPrefix _).sublist
    rw [h] at hlimit
    exact (stripAfterLinks_sublist s).antisymm (hlimit.trans htrim)
  · intro h
    rw [h, hs.trimDocument_eq, hs.limitNewlines_eq]

/-- The document that the passes make of a content and of a trailing content, before trimming. -/
def untrimmed (content trailing : Content) : Text :=
  stripAfterLinks (isolateLinks (content.layoutParagraphs.resolveHardBreaks ++ trailing))

/-- A document that is laid out again stays the same exactly if no line of it that follows a link
line outside a fence is indented.  So it is if trimming takes whole lines away in front, and above
all if no fragment holds a carriage return. -/
theorem layout_layout (fragments trailing : List Fragment) :
    let document := layout (ofFragments fragments) (ofFragments trailing)
    (layout (ofFragments [.text document]) (ofFragments []) = document ↔
        UnindentedAfterLinks document) ∧
      ((leadingTerminators (untrimmed (ofFragments fragments) (ofFragments trailing))).EndsLine →
        layout (ofFragments [.text document]) (ofFragments []) = document) ∧
      ('\r' ∉ (fragments ++ trailing).flatMap Fragment.print →
        layout (ofFragments [.text document]) (ofFragments []) = document) := by
  intro document
  -- a document that was laid out is normalized
  have hagain : layout (ofFragments [.text document]) [] = document ↔
      UnindentedAfterLinks document := layout_text_eq_self_iff (normalized_limitNewlines _)
  have hwhole (h : (leadingTerminators
      (untrimmed (ofFragments fragments) (ofFragments trailing))).EndsLine) :
      layout (ofFragments [.text document]) [] = document :=
    hagain.2 (linksFollowed_iff_unindentedAfterLinks.1 (linksFollowed_of_endsLine h))
  refine ⟨hagain, hwhole, fun hreturn => hwhole ?_⟩
  exact endsLine_leadingTerminators (not_mem_stripAfterLinks (by decide) (by decide) hreturn)

/-- Carriage returns that end their lines do no harm, in front of a link line and behind it. -/
theorem layout_layout_terminators :
    (leadingTerminators (untrimmed (ofFragments [.text "\r\n\n=> u\r\n  b".toList])
        (ofFragments []))).EndsLine ∧
      layout (ofFragments [.text (layout (ofFragments [.text "\r\n\n=> u\r\n  b".toList])
          (ofFragments []))]) (ofFragments []) =
        layout (ofFragments [.text "\r\n\n=> u\r\n  b".toList]) (ofFragments []) := by
  have hlines : (leadingTerminators (untrimmed (ofFragments [.text "\r\n\n=> u\r\n  b".toList])
      (ofFragments []))).EndsLine := .inr ⟨['\r', '\n'], by decide⟩
  exact ⟨hlines, (layout_layout [.text "\r\n\n=> u\r\n  b".toList] []).2.1 hlines⟩

/-- A carriage return hides a link line from the stripping pass: the line behind it stays indented,
until the document is laid out again. -/
theorem layout_layout_return :
    layout (ofFragments [.text "\r=> u\n  b".toList]) (ofFragments []) = "=> u\n  b".toList ∧
      layout (ofFragments [.text "=> u\n  b".toList]) (ofFragments []) = "=> u\nb".toList := by
  decide

end Gemtext
