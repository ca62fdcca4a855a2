import Gemtext.Proofs.Layout.Regions

/-!
# The marks of a content

What is picked out of a content by a predicate that no character satisfies: link lines, paragraph
boundaries, or all marks.  Cutting a content into lines, trimming them and joining them again moves
characters about, but keeps the marks and their order.  Without its marks, a content is its plain
text.
-/

namespace Gemtext

namespace Content

/-! ## Without marks -/

@[simp]
theorem plainText_append (c d : Content) : plainText (c ++ d) = plainText c ++ plainText d :=
  List.filterMap_append

/-- A text is its own plain text. -/
@[simp]
theorem plainText_ofText (s : Text) : plainText (ofText s) = s := by
  induction s with
  | nil => rfl
  | cons x rest ih =>
    show x :: plainText (ofText rest) = x :: rest
    rw [ih]

/-- A text and a cell end make up a cell, whatever follows. -/
theorem cells_ofText_cons (s : Text) (rest : Content) :
    cells (ofText s ++ .cellEnd :: rest) = ofText s :: cells rest := by
  induction s with
  | nil => rfl
  | cons x s ih =>
    show cells (.char x :: (ofText s ++ .cellEnd :: rest)) = _
    rw [cells, ih]
    rfl

@[simp]
theorem flattenBlocks_append (c d : Content) :
    flattenBlocks (c ++ d) = flattenBlocks c ++ flattenBlocks d :=
  List.map_append

/-- Nothing in a text is to be flattened. -/
theorem flattenBlocks_ofText (s : Text) : (ofText s).flattenBlocks = ofText s :=
  List.map_map

theorem linkLines_append (c d : Content) : linkLines (c ++ d) = c.linkLines ++ d.linkLines :=
  List.filter_append ..

/-! ## The marks -/

section

variable {q : Atom → Bool} (hq : ∀ x, q (.char x) = false)
include hq

/-- A text holds no marks. -/
theorem filter_ofText (s : Text) : (ofText s).filter q = [] := by
  refine List.filter_eq_nil_iff.2 fun atom hatom => ?_
  obtain ⟨x, -, rfl⟩ := List.mem_map.1 hatom
  simp [hq x]

/-- What is blank consists of characters. -/
theorem filter_of_isBlank {c : Content} (h : ∀ atom ∈ c, atom.isBlank) : c.filter q = [] := by
  refine List.filter_eq_nil_iff.2 fun atom hatom => ?_
  have hblank := h atom hatom
  cases atom with
  | char x => simp [hq x]
  | _ => simp [Atom.isBlank] at hblank

/-- Trimming drops no marks. -/
theorem filter_trim (c : Content) : c.trim.filter q = c.filter q := by
  obtain ⟨before, after, hc, hbefore, hafter⟩ := exists_append_trim_append c
  conv => rhs; rw [hc]
  rw [List.filter_append, List.filter_append, filter_of_isBlank hq hbefore,
    filter_of_isBlank hq hafter, List.append_nil, List.nil_append]

/-- Reading line breaks drops characters only. -/
theorem filter_unifyNewlines (c : Content) : c.unifyNewlines.filter q = c.filter q := by
  fun_induction unifyNewlines c with
  | case1 => rfl
  | case2 rest ih => simp [hq, ih]
  | case3 atom rest _ ih => rw [List.filter_cons, List.filter_cons, ih]

/-- Every mark stands on one line. -/
theorem flatMap_filter_lines (c : Content) : (c.lines.flatMap fun line => line.filter q) =
    c.filter q := by
  have hpieces : ((splitOn (.char '\n') c.unifyNewlines).flatMap fun line => line.filter q) =
      c.filter q := by
    rw [← filter_unifyNewlines hq c, splitOn_eq_list, List.flatMap_filter_splitOn (hq '\n')]
  rw [← hpieces, lines]
  split
  · -- a last line that is left out holds nothing
    rename_i hlast
    obtain ⟨pieces, hp⟩ := List.getLast?_eq_some_iff.1 hlast
    rw [hp, List.dropLast_concat, List.flatMap_append]
    simp
  · rfl

/-- The separators that joining puts in hold no marks. -/
theorem filter_joinWith (sep : Text) (pieces : List Content) :
    (joinWith sep pieces).filter q = pieces.flatMap fun piece => piece.filter q := by
  fun_induction joinWith sep pieces with
  | case1 => rfl
  | case2 piece => simp
  | case3 piece pieces _ ih =>
    rw [List.filter_append, List.filter_append, filter_ofText hq, ih, List.append_nil]
    rfl

/-- Lines without marks may be left out. -/
theorem flatMap_filter_of_not_isBlank (pieces : List Content) :
    ((pieces.filter fun piece => !piece.isBlank).flatMap fun piece => piece.filter q) =
      pieces.flatMap fun piece => piece.filter q := by
  induction pieces with
  | nil => rfl
  | cons piece pieces ih =>
    rw [List.filter_cons, List.flatMap_cons]
    split
    · rw [List.flatMap_cons, ih]
    · rename_i h
      rw [filter_of_isBlank hq (by simpa [isBlank] using h), ih, List.nil_append]

/-- Boundaries and hard breaks are flattened away. -/
theorem filter_flattenBlocks (c : Content) : c.flattenBlocks.filter q =
    c.filter fun atom => q atom && (atom != .boundary && atom != .hardBreak) := by
  induction c with
  | nil => rfl
  | cons atom rest ih =>
    rw [flattenBlocks, List.map_cons, ← flattenBlocks, List.filter_cons, List.filter_cons, ih]
    cases atom <;> simp [hq]

end

end Content

end Gemtext
