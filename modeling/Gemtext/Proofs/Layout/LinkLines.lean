import Gemtext.Proofs.Layout.Lines
import Gemtext.Proofs.Layout.Regions

/-!
# Link lines stand on lines of their own

A link line that is trimmed, has a target and holds no newline (`LinkLine.Proper`) is written as a
text that begins and ends visibly.  `isolateLinks` writes such lines as whole lines of the
document, and every later pass keeps them: they are no empty lines, and there is nothing to trim.
So the printed link lines of a content are lines of the document, in order
(`linkTexts_sublist_lines_layout`).
-/

namespace Gemtext

open Text

/-- A link line that is written on one line: it has a target, it is trimmed, and no newline is
in it. -/
structure LinkLine.Proper (line : LinkLine) : Prop where
  trimmed : ∃ url label, line = .ofTrimmed url label
  url_ne_nil : line.url ≠ []
  newline_not_mem : '\n' ∉ line.print

/-- The text of the fragment, if it is a link line. -/
def Fragment.linkText? : Fragment → Option Text
  | link line => some line.print
  | _ => none

/-- The texts of the link lines that the atom holds. -/
def Atom.linkTexts : Atom → List Text
  | link line => [line.print]
  | _ => []

namespace LinkLine

/-- A proper link line begins with its arrow and ends with its target or its label. -/
theorem Proper.framed {line : LinkLine} (h : line.Proper) : Framed line.print := by
  obtain ⟨url, label, rfl⟩ := h.trimmed
  have hurl : (trimStart url).trimEnd ≠ [] := h.url_ne_nil
  obtain ⟨start, c, hend, hc⟩ := exists_trimEnd_eq_concat hurl
  cases hlabel : (label.map Text.trim).filter (!·.isEmpty) with
  | none =>
    -- without a label the target stands last
    have hprint : (ofTrimmed url label).print = "=> ".toList ++ start ++ [c] := by
      simp only [print, ofTrimmed, hlabel, trim, hend, List.append_assoc]
    exact ⟨⟨'=', _, by rw [hprint]; rfl, by decide⟩, ⟨_, c, hprint, hc⟩⟩
  | some shown =>
    obtain ⟨hmap, hshown⟩ := Option.filter_eq_some_iff.1 hlabel
    -- the label stands last, and is trimmed
    obtain ⟨text, -, rfl⟩ := Option.map_eq_some_iff.1 hmap
    obtain ⟨start', d, hend', hd⟩ :=
      exists_trimEnd_eq_concat (s := text.trimStart) (by simpa [trim] using hshown)
    have hprint : (ofTrimmed url label).print =
        "=> ".toList ++ url.trim ++ ' ' :: start' ++ [d] := by
      simp only [print, ofTrimmed, hlabel, trim, hend', List.append_assoc, List.cons_append]
    exact ⟨⟨'=', _, by rw [hprint]; rfl, by decide⟩, ⟨_, d, hprint, hd⟩⟩

end LinkLine

namespace Layout

/-! ## Isolating the link lines -/

/-- The `kept` lines stand whole in the text written so far, which is held in reverse.  Only behind
a link line may the last of them still lack its newline. -/
inductive Holds (kept : List Text) : Bool → Text → Prop
  | nothing (written : Text) (h : kept = []) : Holds kept false written
  | lines (current written : Text) (h : kept.Sublist (splitOn '\n' written.reverse)) :
      Holds kept false (current ++ '\n' :: written)
  | afterLink (c : Char) (written : Text) (hc : isBlank c = false)
      (h : kept.Sublist (splitOn '\n' (c :: written).reverse)) : Holds kept true (c :: written)

variable {kept : List Text} {afterLink : Bool} {written : Text}

/-- What stands before the last newline stays there when more is written. -/
theorem sublist_splitOn_lines {current : Text} (h : kept.Sublist (splitOn '\n' written.reverse)) :
    kept.Sublist (splitOn '\n' (current ++ '\n' :: written).reverse) := by
  rw [List.reverse_append, List.reverse_cons, List.append_assoc, List.singleton_append,
    splitOn_append_cons]
  exact h.trans (List.sublist_append_left _ _)

/-- The kept lines are lines of what is written. -/
theorem Holds.sublist_splitOn (h : Holds kept afterLink written) :
    kept.Sublist (splitOn '\n' written.reverse) := by
  cases h with
  | nothing written h => rw [h]; exact List.nil_sublist _
  | lines current written h => exact sublist_splitOn_lines h
  | afterLink c written hc h => exact h

/-- Writing on behind a line that is not a link line. -/
theorem Holds.char (h : Holds kept false written) (c : Char) : Holds kept false (c :: written) := by
  cases h with
  | nothing written h => exact .nothing _ h
  | lines current written h => exact .lines (c :: current) written h

/-- Ending an open line. -/
theorem endLine_of_ne {c : Char} (hc : c ≠ '\n') (written : Text) :
    endLine (c :: written) = '\n' :: dropEndSpaces (c :: written) := by
  unfold endLine
  split
  · rename_i h
    cases h
  · rename_i h
    exact absurd (List.cons.inj h).1 hc
  · rfl

/-- Ending a line that ends visibly only adds the newline. -/
theorem endLine_of_visible {c : Char} (hc : isBlank c = false) (written : Text) :
    endLine (c :: written) = '\n' :: c :: written := by
  have hs : (c == ' ' || c == '\t') = false := by
    rw [Bool.or_eq_false_iff, beq_eq_false_iff_ne, beq_eq_false_iff_ne]
    exact ⟨ne_of_visible hc rfl, ne_of_visible hc rfl⟩
  rw [endLine_of_ne (ne_of_visible hc rfl), dropEndSpaces,
    List.dropWhile_cons_of_neg (by simp [hs])]

/-- Ending a line takes away no line that is ended already. -/
theorem exists_endLine_eq (current written : Text) :
    ∃ ended, endLine (current ++ '\n' :: written) = '\n' :: ended ∧
      (ended = written ∨ ∃ current', ended = current' ++ '\n' :: written) := by
  cases current with
  | nil => exact ⟨written, rfl, .inl rfl⟩
  | cons c rest =>
    -- the line is ended already, or the spaces at its end are dropped first
    by_cases hn : c = '\n'
    · subst hn
      exact ⟨rest ++ '\n' :: written, rfl, .inr ⟨rest, rfl⟩⟩
    · refine ⟨_, endLine_of_ne hn (rest ++ '\n' :: written), .inr ⟨dropEndSpaces (c :: rest), ?_⟩⟩
      rw [← List.cons_append, dropEndSpaces, List.dropWhile_append]
      split
      · rename_i hnil
        rw [dropEndSpaces, List.isEmpty_iff.1 hnil]
        rfl
      · rfl

/-- A link line that is written next is kept too. -/
theorem Holds.link (h : Holds kept afterLink written) {line : Text} (hframed : Framed line)
    (hline : '\n' ∉ line) : Holds (kept ++ [line]) true (line.reverse ++ endLine written) := by
  have hlines (before : Text) (h : kept.Sublist (splitOn '\n' before.reverse)) :
      (kept ++ [line]).Sublist (splitOn '\n' (line.reverse ++ '\n' :: before).reverse) := by
    rw [List.reverse_append, List.reverse_cons, List.reverse_reverse, List.append_assoc,
      List.singleton_append, splitOn_append_cons, splitOn_of_not_mem hline]
    exact h.append (List.Sublist.refl _)
  obtain ⟨start, d, hend, hd⟩ := hframed.last
  -- the line ends visibly, whatever stands before it
  suffices h : (kept ++ [line]).Sublist (splitOn '\n' (line.reverse ++ endLine written).reverse) by
    have hrev : line.reverse ++ endLine written = d :: (start.reverse ++ endLine written) := by
      rw [hend, List.reverse_append]
      rfl
    rw [hrev] at h ⊢
    exact .afterLink d _ hd h
  cases h with
  | nothing written h =>
    subst h
    cases written with
    | nil => simp [endLine, splitOn_of_not_mem hline]
    | cons c rest =>
      obtain ⟨ended, hended⟩ : ∃ ended, endLine (c :: rest) = '\n' :: ended := by
        by_cases hn : c = '\n'
        · exact ⟨rest, by rw [hn]; rfl⟩
        · exact ⟨_, endLine_of_ne hn rest⟩
      rw [hended]
      exact hlines ended (List.nil_sublist _)
  | lines current written h =>
    obtain ⟨ended, hended, hcases⟩ := exists_endLine_eq current written
    rw [hended]
    refine hlines ended ?_
    rcases hcases with rfl | ⟨current', rfl⟩
    · exact h
    · exact sublist_splitOn_lines h
  | afterLink c written hc h =>
    rw [endLine_of_visible hc]
    exact hlines _ h

/-- The link lines of a content are written as whole lines, behind those that stand there. -/
theorem sublist_isolateLinksAfter (h : Holds kept afterLink written) {c : Content}
    (hc : ∀ line, .link line ∈ c → line.Proper) :
    (kept ++ c.flatMap Atom.linkTexts).Sublist
      (splitOn '\n' (isolateLinksAfter written afterLink c)) := by
  induction c generalizing kept afterLink written with
  | nil =>
    rw [List.flatMap_nil, List.append_nil]
    exact h.sublist_splitOn
  | cons atom rest ih =>
    have hrest : ∀ line, .link line ∈ rest → line.Proper :=
      fun line hmem => hc line (List.mem_cons_of_mem _ hmem)
    cases atom with
    | char x =>
      rw [isolateLinksAfter]
      cases afterLink with
      | false => exact ih (h.char x) hrest
      | true =>
        -- the newline behind the link line is the next character, or it is put in before it
        by_cases hx : x = '\n'
        · subst hx
          exact ih (.lines [] written h.sublist_splitOn) hrest
        · simp only [Bool.true_and, bne_iff_ne.2 hx, if_true]
          exact ih (.lines [x] written h.sublist_splitOn) hrest
    | link line =>
      have hline := hc line List.mem_cons_self
      have hnext := ih (h.link hline.framed hline.newline_not_mem) hrest
      rwa [List.append_assoc] at hnext
    | _ => exact ih h hrest

/-! ## The later passes -/

/-- Stripping leaves framed lines as they are. -/
theorem sublist_stripLinesAfterLinks (hk : ∀ line ∈ kept, Framed line) {lines : List Text}
    (h : kept.Sublist lines) (inFence strip : Bool) :
    kept.Sublist (stripLinesAfterLinks inFence strip lines) := by
  induction h generalizing inFence strip with
  | slnil => exact List.nil_sublist _
  | cons line h ih =>
    obtain ⟨shown, -, heq⟩ := stripLinesAfterLinks_cons inFence strip line _
    rw [heq]
    exact (ih hk _ _).cons shown
  | cons_cons line h ih =>
    obtain ⟨shown, hshown, heq⟩ := stripLinesAfterLinks_cons inFence strip line _
    -- nothing is to be stripped from a line that is kept
    have htrim : shown = line := by
      cases strip with
      | false => exact hshown
      | true => exact hshown.trans (hk line List.mem_cons_self).trimStart_eq
    rw [heq, htrim]
    exact (ih (fun l hl => hk l (List.mem_cons_of_mem _ hl)) _ _).cons_cons line

/-- Trimming the document leaves framed lines as they are. -/
theorem sublist_trimDocument (hk : ∀ line ∈ kept, Framed line) {s : Text}
    (h : kept.Sublist (splitOn '\n' s)) : kept.Sublist (splitOn '\n' (trimDocument s)) := by
  obtain ⟨blanks, hs, hblanks⟩ := List.exists_dropWhile_reverse_append isBlank s
  rw [hs] at h
  have hend := sublist_splitOn_of_append_blank hk hblanks h
  obtain ⟨dropped, hstart, hdropped⟩ :=
    List.exists_append_dropWhile (fun c => c == '\r' || c == '\n') s.trimEnd
  rw [trimDocument]
  rw [show (s.reverse.dropWhile isBlank).reverse = s.trimEnd from rfl, hstart] at hend
  refine sublist_splitOn_of_blank_append hk (fun c hc => ?_) hend
  rcases Bool.or_eq_true_iff.1 (hdropped c hc) with h | h <;> rw [eq_of_beq h] <;> decide

/-- Taking away empty lines takes away none that is kept. -/
theorem sublist_limitNewlines (hk : ∀ line ∈ kept, Framed line) (seen : Nat) {s : Text}
    (h : kept.Sublist (splitOn '\n' s)) : kept.Sublist (splitOn '\n' (limitNewlines seen s)) := by
  induction s using lineInduction generalizing kept seen with
  | last line hline => rwa [limitNewlines_of_not_mem hline]
  | cons line rest hline ih =>
    rw [splitOn_piece_cons hline] at h
    -- an empty line goes, or a line stays with its newline
    rcases limitNewlines_line hline seen rest with ⟨rfl, -, heq⟩ | ⟨now, -, heq⟩
    · rw [heq]
      cases h with
      | cons _ h => exact ih hk seen h
      | cons_cons _ h => exact absurd rfl (hk [] List.mem_cons_self).ne_nil
    · rw [heq, splitOn_piece_cons hline]
      cases h with
      | cons _ h => exact (ih hk now h).cons line
      | cons_cons _ h =>
        exact (ih (fun l hl => hk l (List.mem_cons_of_mem _ hl)) now h).cons_cons line

end Layout

/-! ## The whole layout -/

namespace Content

/-- Blank characters, boundaries and hard breaks are no link lines. -/
theorem skipsBlank_linkTexts : SkipsBlank Atom.linkTexts where
  blank _ _ := rfl
  boundary := rfl
  hardBreak := rfl

/-- The link lines among the atoms are those among the fragments. -/
theorem flatMap_linkTexts_ofFragments (fragments : List Fragment) :
    (ofFragments fragments).flatMap Atom.linkTexts = fragments.filterMap Fragment.linkText? := by
  induction fragments with
  | nil => rfl
  | cons fragment rest ih =>
    rw [ofFragments_cons, List.flatMap_append, ih]
    cases fragment with
    | text s =>
      have hs : (Fragment.text s).atoms.flatMap Atom.linkTexts = [] :=
        List.flatMap_eq_nil_iff.2 fun atom hatom => by
          obtain ⟨x, -, rfl⟩ := List.mem_map.1 hatom
          rfl
      rw [hs]
      rfl
    | _ => rfl

/-- A link line among the atoms is one of the fragments. -/
theorem mem_ofFragments_link {fragments : List Fragment} {line : LinkLine}
    (h : .link line ∈ ofFragments fragments) : .link line ∈ fragments := by
  obtain ⟨fragment, hfragment, h⟩ := List.mem_flatMap.1 h
  cases fragment with
  | text s => simp [Fragment.atoms, ofText] at h
  | link other =>
    simp only [Fragment.atoms, List.mem_singleton, Atom.link.injEq] at h
    rwa [h]
  | _ => simp [Fragment.atoms] at h

/-- Resolving hard breaks makes no link line. -/
theorem mem_resolveHardBreaks_link {c : Content} {line : LinkLine}
    (h : .link line ∈ c.resolveHardBreaks) : .link line ∈ c := by
  obtain ⟨atom, hatom, heq⟩ := List.mem_map.1 h
  by_cases hb : atom = .hardBreak
  · simp [hb] at heq
  · rw [if_neg hb] at heq
    rwa [← heq]

end Content

open Content Layout in
/-- The link lines of the fragments, and then those of the trailing fragments, are whole lines of
the document, in order, if each of them is written on one line. -/
theorem linkTexts_sublist_lines_layout (fragments trailing : List Fragment)
    (h : ∀ line, Fragment.link line ∈ fragments ++ trailing → line.Proper) :
    ((fragments ++ trailing).filterMap Fragment.linkText?).Sublist
      (layout (ofFragments fragments) (ofFragments trailing)).lines := by
  let content := (ofFragments fragments).layoutParagraphs.resolveHardBreaks ++ ofFragments trailing
  -- every link line of the content is one of the fragments
  have hproper : ∀ line, .link line ∈ content → line.Proper := by
    intro line hline
    apply h line
    rcases List.mem_append.1 hline with hline | hline
    · rcases mem_layoutParagraphs (mem_resolveHardBreaks_link hline) with hline | hline | hline
      · exact List.mem_append_left _ (mem_ofFragments_link hline)
      · cases hline
      · cases hline
    · exact List.mem_append_right _ (mem_ofFragments_link hline)
  -- the passes over the content keep the link lines in order
  have htexts : content.flatMap Atom.linkTexts =
      (fragments ++ trailing).filterMap Fragment.linkText? := by
    rw [List.flatMap_append, flatMap_resolveHardBreaks skipsBlank_linkTexts,
      flatMap_layoutParagraphs skipsBlank_linkTexts, flatMap_linkTexts_ofFragments,
      flatMap_linkTexts_ofFragments, List.filterMap_append]
  have hframed : ∀ text ∈ (fragments ++ trailing).filterMap Fragment.linkText?, Framed text := by
    intro text htext
    obtain ⟨fragment, hfragment, heq⟩ := List.mem_filterMap.1 htext
    cases fragment with
    | link line =>
      obtain rfl := Option.some.inj heq
      exact (h line hfragment).framed
    | _ => cases heq
  -- isolating puts each of them on a line of its own, and the later passes keep it
  have hisolated := sublist_isolateLinksAfter (.nothing [] rfl) hproper
  rw [List.nil_append, htexts] at hisolated
  refine sublist_lines hframed (sublist_limitNewlines hframed 0 (sublist_trimDocument hframed ?_))
  rw [splitOn_stripAfterLinks]
  exact sublist_stripLinesAfterLinks hframed hisolated false false

open Content in
/-- A link inside a paragraph, and one behind the document. -/
theorem linkTexts_sublist_lines_layout_paragraph :
    (∀ line, Fragment.link line ∈ [.boundary, .text "see ".toList,
        .link (.ofTrimmed ['u'] (some " docs ".toList)), .text " for more".toList, .boundary] ++
        [.link (.ofTrimmed ['v'] none)] → line.Proper) ∧
      ["=> u docs".toList, "=> v".toList].Sublist
        (layout (ofFragments [.boundary, .text "see ".toList,
            .link (.ofTrimmed ['u'] (some " docs ".toList)), .text " for more".toList, .boundary])
          (ofFragments [.link (.ofTrimmed ['v'] none)])).lines := by
  have hproper : ∀ line, Fragment.link line ∈ [.boundary, .text "see ".toList,
      .link (.ofTrimmed ['u'] (some " docs ".toList)), .text " for more".toList, .boundary] ++
      [.link (.ofTrimmed ['v'] none)] → line.Proper := by
    intro line hline
    simp only [List.cons_append, List.nil_append, List.mem_cons, reduceCtorEq, Fragment.link.injEq,
      List.not_mem_nil, or_false, false_or] at hline
    rcases hline with rfl | rfl
    · exact ⟨⟨_, _, rfl⟩, by decide, by decide⟩
    · exact ⟨⟨_, _, rfl⟩, by decide, by decide⟩
  exact ⟨hproper, linkTexts_sublist_lines_layout _ _ hproper⟩

end Gemtext
