import Gemtext.Content.Fragment
import Gemtext.Layout
import Gemtext.Proofs.List

/-!
# What the passes over content keep

`layoutParagraphs` and `resolveHardBreaks` take blank characters away, put others in, and use up
the boundaries and hard breaks.  A reading of the atoms in which none of these counts
(`SkipsBlank`) reads the same before and after (`flatMap_layoutParagraphs`,
`flatMap_resolveHardBreaks`), and no other atom appears (`mem_layoutParagraphs`).
-/

namespace Gemtext

namespace Content

variable {β : Type} {f : Atom → List β}

/-- A reading of the atoms to which blank characters, boundaries and hard breaks add nothing. -/
structure SkipsBlank (f : Atom → List β) : Prop where
  blank : ∀ c, Gemtext.isBlank c → f (.char c) = []
  boundary : f .boundary = []
  hardBreak : f .hardBreak = []

/-- The atoms of fragments are written as the fragments are. -/
theorem flatMap_print_ofFragments (fragments : List Fragment) :
    (ofFragments fragments).flatMap Atom.print = fragments.flatMap Fragment.print := by
  rw [ofFragments, List.flatMap_assoc]
  congr 1
  funext fragment
  cases fragment with
  | text s => simp [Fragment.atoms, Fragment.print, ofText, List.flatMap_map, Atom.print]
  | _ => simp [Fragment.atoms, Fragment.print, Atom.print]

/-! ## Trimming -/

/-- Only characters are blank. -/
theorem exists_char_of_isBlank {atom : Atom} (h : atom.isBlank) :
    ∃ x, atom = .char x ∧ Gemtext.isBlank x := by
  cases atom with
  | char x => exact ⟨x, rfl, h⟩
  | _ => cases h

/-- A content is its trimmed form between blank characters. -/
theorem exists_append_trim_append (c : Content) :
    ∃ before after, c = before ++ c.trim ++ after ∧
      (∀ atom ∈ before, atom.isBlank) ∧ ∀ atom ∈ after, atom.isBlank := by
  obtain ⟨before, hc, hbefore⟩ := List.exists_append_dropWhile Atom.isBlank c
  obtain ⟨after, hstart, hafter⟩ := List.exists_dropWhile_reverse_append Atom.isBlank c.trimStart
  refine ⟨before, after, ?_, hbefore, hafter⟩
  rw [List.append_assoc, trim, trimEnd, ← hstart]
  exact hc

/-- What is left of a content stands in it as it is. -/
theorem trim_isInfix (c : Content) : c.trim <:+: c := by
  obtain ⟨before, after, hc, -, -⟩ := exists_append_trim_append c
  exact ⟨before, after, hc.symm⟩

/-- Trimming puts no atom in. -/
theorem mem_of_mem_trim {c : Content} {atom : Atom} (h : atom ∈ c.trim) : atom ∈ c :=
  (trim_isInfix c).mem h

/-- Blank atoms add nothing. -/
theorem flatMap_of_isBlank (hf : SkipsBlank f) {c : Content} (h : ∀ atom ∈ c, atom.isBlank) :
    c.flatMap f = [] := by
  refine List.flatMap_eq_nil_iff.2 fun atom hatom => ?_
  have hblank := h atom hatom
  cases atom with
  | char x => exact hf.blank x hblank
  | _ => simp [Atom.isBlank] at hblank

/-- Trimming takes nothing away from the reading. -/
theorem flatMap_trim (hf : SkipsBlank f) (c : Content) : c.trim.flatMap f = c.flatMap f := by
  obtain ⟨before, after, hc, hbefore, hafter⟩ := exists_append_trim_append c
  calc c.trim.flatMap f
      = before.flatMap f ++ c.trim.flatMap f ++ after.flatMap f := by
        simp [flatMap_of_isBlank hf hbefore, flatMap_of_isBlank hf hafter]
    _ = c.flatMap f := by rw [← List.flatMap_append, ← List.flatMap_append, ← hc]

/-! ## Paragraph regions -/

/-- Nor does a space in place of a newline. -/
theorem flatMap_newlinesToSpaces (hf : SkipsBlank f) (c : Content) :
    c.newlinesToSpaces.flatMap f = c.flatMap f := by
  have hspace : f (.char ' ') = [] := hf.blank ' ' (by decide)
  have hnewline : f (.char '\n') = [] := hf.blank '\n' (by decide)
  have hreturn : f (.char '\r') = [] := hf.blank '\r' (by decide)
  fun_induction newlinesToSpaces c with
  | case1 => rfl
  | case2 rest ih => simp only [List.flatMap_cons, ih, hspace, hnewline, hreturn, List.nil_append]
  | case3 atom rest _ ih =>
    simp only [List.flatMap_cons, ih]
    by_cases h : atom = .char '\n'
    · simp only [h, if_true, hspace, hnewline]
    · simp only [h, if_false]

/-- A newline becomes a space, and all else stays. -/
theorem mem_newlinesToSpaces {c : Content} {atom : Atom} (h : atom ∈ c.newlinesToSpaces) :
    atom ∈ c ∨ atom = .char ' ' := by
  fun_induction newlinesToSpaces c with
  | case1 => exact .inl h
  | case2 rest ih =>
    rcases List.mem_cons.1 h with rfl | h
    · exact .inr rfl
    · exact (ih h).imp_left fun h => List.mem_cons_of_mem _ (List.mem_cons_of_mem _ h)
  | case3 first rest _ ih =>
    rcases List.mem_cons.1 h with rfl | h
    · -- a newline becomes a space
      by_cases hn : first = .char '\n'
      · exact .inr (by simp [hn])
      · exact .inl (by simp [hn])
    · exact (ih h).imp_left (List.mem_cons_of_mem _)

/-- A paragraph is read as its region is. -/
theorem flatMap_layoutParagraph (hf : SkipsBlank f) (region : Content) :
    (layoutParagraph region).flatMap f = region.flatMap f := by
  have hnewline : f (.char '\n') = [] := hf.blank '\n' (by decide)
  rw [layoutParagraph, List.flatMap_append, flatMap_newlinesToSpaces hf, flatMap_trim hf]
  simp [ofText, hnewline]

/-- A paragraph holds its region, on one line, and newlines. -/
theorem mem_layoutParagraph {region : Content} {atom : Atom} (h : atom ∈ layoutParagraph region) :
    atom ∈ region ∨ atom = .char ' ' ∨ atom = .char '\n' := by
  rcases List.mem_append.1 h with h | h
  · rcases mem_newlinesToSpaces h with h | h
    · exact .inl (mem_of_mem_trim h)
    · exact .inr (.inl h)
  · exact .inr (.inr (by simpa [ofText] using h))

/-- The regions are read one by one. -/
theorem flatMap_joinRegions (hf : SkipsBlank f) (inside : Bool) (pieces : List Content) :
    (joinRegions inside pieces).flatMap f = pieces.flatMap fun piece => piece.flatMap f := by
  induction pieces generalizing inside with
  | nil => rfl
  | cons piece pieces ih =>
    rw [joinRegions, List.flatMap_append, ih, List.flatMap_cons]
    cases inside with
    | false => rfl
    | true => rw [if_pos rfl, flatMap_layoutParagraph hf]

/-- What is joined comes from the regions, and from the spaces and newlines of the paragraphs. -/
theorem mem_joinRegions {inside : Bool} {pieces : List Content} {atom : Atom}
    (h : atom ∈ joinRegions inside pieces) :
    (∃ piece ∈ pieces, atom ∈ piece) ∨ atom = .char ' ' ∨ atom = .char '\n' := by
  induction pieces generalizing inside with
  | nil => simp [joinRegions] at h
  | cons piece pieces ih =>
    rw [joinRegions] at h
    rcases List.mem_append.1 h with h | h
    · -- a region outside stays as it is
      cases inside with
      | false => exact .inl ⟨piece, List.mem_cons_self, h⟩
      | true => exact (mem_layoutParagraph h).imp_left fun h => ⟨piece, List.mem_cons_self, h⟩
    · refine (ih h).imp_left ?_
      rintro ⟨other, hother, h⟩
      exact ⟨other, List.mem_cons_of_mem _ hother, h⟩

/-- `splitOn` cuts as `List.splitOn` does. -/
theorem splitOn_eq_list (sep : Atom) (c : Content) : splitOn sep c = List.splitOn sep c := by
  induction c with
  | nil => simp [splitOn]
  | cons atom rest ih =>
    rw [splitOn, List.splitOn_cons_eq_if_modifyHead, ih]
    obtain ⟨piece, pieces, hp⟩ := List.exists_cons_of_ne_nil (List.splitOn_ne_nil sep rest)
    by_cases h : atom = sep <;> simp [h, hp]

/-- Laying out the paragraphs changes nothing that a blank-skipping reading sees. -/
theorem flatMap_layoutParagraphs (hf : SkipsBlank f) (c : Content) :
    c.layoutParagraphs.flatMap f = c.flatMap f := by
  rw [layoutParagraphs, flatMap_joinRegions hf, splitOn_eq_list,
    List.flatMap_flatMap_splitOn hf.boundary]

/-- Laying out the paragraphs puts in spaces and newlines only. -/
theorem mem_layoutParagraphs {c : Content} {atom : Atom} (h : atom ∈ c.layoutParagraphs) :
    atom ∈ c ∨ atom = .char ' ' ∨ atom = .char '\n' := by
  refine (mem_joinRegions h).imp_left ?_
  rintro ⟨piece, hpiece, h⟩
  rw [splitOn_eq_list] at hpiece
  exact (List.mem_and_ne_of_mem_splitOn hpiece h).1

/-- Laying out the paragraphs leaves no boundary. -/
theorem boundary_not_mem_layoutParagraphs (c : Content) : .boundary ∉ c.layoutParagraphs := by
  intro hmem
  rcases mem_joinRegions hmem with ⟨piece, hpiece, hmem⟩ | hmem | hmem
  · rw [splitOn_eq_list] at hpiece
    exact (List.mem_and_ne_of_mem_splitOn hpiece hmem).2 rfl
  · cases hmem
  · cases hmem

/-- A content without boundaries is laid out as it is. -/
theorem layoutParagraphs_of_not_mem {c : Content} (h : .boundary ∉ c) : c.layoutParagraphs = c := by
  rw [layoutParagraphs, splitOn_eq_list, List.splitOn_eq_singleton h]
  exact List.append_nil c

/-! ## Hard breaks -/

/-- A hard break counts as little as the newline that it becomes. -/
theorem flatMap_resolveHardBreaks (hf : SkipsBlank f) (c : Content) :
    c.resolveHardBreaks.flatMap f = c.flatMap f := by
  have hnewline : f (.char '\n') = [] := hf.blank '\n' (by decide)
  rw [resolveHardBreaks, List.flatMap_map]
  congr 1
  funext atom
  by_cases h : atom = .hardBreak
  · simp only [h, if_true, hnewline, hf.hardBreak]
  · simp only [h, if_false]

/-- A hard break is written as the newline that it becomes. -/
theorem flatMap_print_resolveHardBreaks (c : Content) :
    c.resolveHardBreaks.flatMap Atom.print = c.flatMap Atom.print := by
  rw [resolveHardBreaks, List.flatMap_map]
  congr 1
  funext atom
  by_cases h : atom = .hardBreak
  · simp only [h, if_true, Atom.print]
  · simp only [h, if_false]

/-- A content without hard breaks stays as it is. -/
theorem resolveHardBreaks_of_not_mem {c : Content} (h : .hardBreak ∉ c) :
    c.resolveHardBreaks = c := by
  have hsame : ∀ atom ∈ c, (if atom = .hardBreak then .char '\n' else atom) = atom := by
    intro atom hatom
    refine if_neg ?_
    rintro rfl
    exact h hatom
  rw [resolveHardBreaks, List.map_congr_left hsame, List.map_id']

end Content

end Gemtext
