import Gemtext.Proofs.Text.Wrap
import Gemtext.Table.Widths
import Mathlib.Data.List.Forall2

/-!
# The widths of the columns

A column needs as much as its widest cell (`contentWidths_eq`).  Without fixed widths, no column is
given more than it needs, a column that needs something is given something, and the columns and
what is drawn around them stay within the limit, if there is one (`allotted_of_columnWidths`).
There are no widths just if the limit is below what the columns need and below one place for each
of them (`columnWidths_eq_error`).
-/

namespace Gemtext

namespace Table

/-! ## What the columns need -/

/-- Raising changes no number of columns. -/
@[simp]
theorem length_raise (as bs : List Nat) : (raise as bs).length = as.length := by
  fun_induction raise as bs with
  | case1 a as b bs ih => rw [List.length_cons, List.length_cons, ih]
  | case2 => rfl
  | case3 => rfl

/-- Each column is raised by itself. -/
theorem getD_raise (as bs : List Nat) {i : Nat} (hi : i < as.length) :
    (raise as bs).getD i 0 = max (as.getD i 0) (bs.getD i 0) := by
  fun_induction raise as bs generalizing i with
  | case1 a as b bs ih =>
    cases i with
    | zero => rfl
    | succ i => simpa using ih (by simpa using hi)
  | case2 as => simp
  | case3 => simp at hi

/-- Raising numbers by several lists leaves the largest number of each position. -/
theorem foldl_raise (as : List Nat) (bss : List (List Nat)) :
    bss.foldl raise as =
      (List.range as.length).map fun i => (bss.map (·.getD i 0)).foldl max (as.getD i 0) := by
  induction bss generalizing as with
  | nil => exact (List.map_getD_range as 0).symm
  | cons bs bss ih =>
    rw [List.foldl_cons, ih, length_raise]
    refine List.map_congr_left fun i hi => ?_
    rw [getD_raise as bs (List.mem_range.1 hi)]
    rfl

/-- The width of the widest cell of a column, be it in the header or in a row. -/
def columnNeed (t : Table) (column : Nat) : Nat :=
  ((t.header :: t.rows).map fun row =>
    (row.map (Text.cellWidth t.measure)).getD column 0).foldl max 0

/-- A column needs what the widest cell in it does. -/
theorem contentWidths_eq (t : Table) :
    t.contentWidths = (List.range (t.columnCount.getD 0)).map t.columnNeed := by
  have hfold (rows : List (List Text)) (widths : List Nat) :
      rows.foldl (fun widths row => raise widths (row.map (Text.cellWidth t.measure))) widths =
        (rows.map fun row => row.map (Text.cellWidth t.measure)).foldl raise widths :=
    List.foldl_map.symm
  rw [contentWidths, hfold, foldl_raise, List.length_replicate]
  refine List.map_congr_left fun i hi => ?_
  have hstart : (List.replicate (t.columnCount.getD 0) 0).getD i 0 = 0 := by
    simp [List.mem_range.1 hi]
  rw [columnNeed, List.map_map, hstart]
  rfl

/-- A column needs as much as each of its cells. -/
theorem cellWidth_le_columnNeed {t : Table} {row : List Text} (hrow : row ∈ t.header :: t.rows)
    {column : Nat} {cell : Text} (hcell : row[column]? = some cell) :
    Text.cellWidth t.measure cell ≤ t.columnNeed column := by
  refine (List.le_foldl_max _ 0).2 _ (List.mem_map.2 ⟨row, hrow, ?_⟩)
  simp [List.getD_eq_getElem?_getD, hcell]

/-! ## Sharing places out -/

section

variable {good : Share → Prop}

/-- What is kept when a column that needs more is given a place is kept by a round. -/
theorem forall_mem_dealRound
    (hgrow : ∀ column : Share, good column → column.given < column.need →
      good { column with given := column.given + 1 })
    (available : Nat) {columns : List Share} (h : ∀ column ∈ columns, good column) :
    ∀ column ∈ (dealRound available columns).1, good column := by
  induction columns generalizing available with
  | nil => exact List.forall_mem_nil _
  | cons column columns ih =>
    obtain ⟨hcolumn, hcolumns⟩ := List.forall_mem_cons.1 h
    rw [dealRound]
    -- a column gets a place, or stays as it is
    split
    · rename_i hneeds
      rw [Bool.and_eq_true, decide_eq_true_eq, decide_eq_true_eq] at hneeds
      exact List.forall_mem_cons.2 ⟨hgrow column hcolumn hneeds.2, ih _ hcolumns⟩
    · exact List.forall_mem_cons.2 ⟨hcolumn, ih _ hcolumns⟩

/-- So does every round after it. -/
theorem forall_mem_dealRounds
    (hgrow : ∀ column : Share, good column → column.given < column.need →
      good { column with given := column.given + 1 })
    (rounds available : Nat) {columns : List Share} (h : ∀ column ∈ columns, good column) :
    ∀ column ∈ dealRounds rounds available columns, good column := by
  induction rounds generalizing available columns with
  | zero => exact h
  | succ rounds ih => exact ih _ (forall_mem_dealRound hgrow available h)

end

/-- Dealing changes no need. -/
theorem map_need_dealRound (available : Nat) (columns : List Share) :
    (dealRound available columns).1.map Share.need = columns.map Share.need := by
  induction columns generalizing available with
  | nil => rfl
  | cons column columns ih =>
    rw [dealRound]
    split <;> simp only [List.map_cons, ih]

theorem map_need_dealRounds (rounds available : Nat) (columns : List Share) :
    (dealRounds rounds available columns).map Share.need = columns.map Share.need := by
  induction rounds generalizing available columns with
  | zero => rfl
  | succ rounds ih =>
    rw [dealRounds]
    dsimp only
    rw [ih, map_need_dealRound]

/-- What is dealt in a round is no longer available. -/
theorem sum_dealRound (available : Nat) (columns : List Share) :
    ((dealRound available columns).1.map Share.given).sum + (dealRound available columns).2 =
      (columns.map Share.given).sum + available := by
  induction columns generalizing available with
  | nil => rfl
  | cons column columns ih =>
    rw [dealRound]
    -- a place goes from what is left to the column
    split
    · rename_i hneeds
      rw [Bool.and_eq_true, decide_eq_true_eq] at hneeds
      have hpos : 0 < available := hneeds.1
      have hothers := ih (available - 1)
      simp only [List.map_cons, List.sum_cons]
      omega
    · have hothers := ih available
      simp only [List.map_cons, List.sum_cons]
      omega

/-- No more is dealt than there is. -/
theorem sum_dealRounds_le (rounds available : Nat) (columns : List Share) :
    ((dealRounds rounds available columns).map Share.given).sum ≤
      (columns.map Share.given).sum + available := by
  induction rounds generalizing available columns with
  | zero => exact Nat.le_add_right _ _
  | succ rounds ih =>
    have hround := sum_dealRound available columns
    have hothers := ih (dealRound available columns).2 (dealRound available columns).1
    rw [dealRounds]
    dsimp only
    omega

/-- A column that needs something has something. -/
def Share.Served (column : Share) : Prop :=
  0 < column.need → 0 < column.given

/-- If there is a place for every column, all are served in one round. -/
theorem served_dealRound {available : Nat} {columns : List Share}
    (h : columns.length ≤ available) :
    ∀ column ∈ (dealRound available columns).1, column.Served := by
  induction columns generalizing available with
  | nil => exact List.forall_mem_nil _
  | cons column columns ih =>
    rw [List.length_cons] at h
    rw [dealRound]
    -- a column that is not given a place needs none
    split
    · exact List.forall_mem_cons.2 ⟨fun _ => Nat.succ_pos _, ih (by omega)⟩
    · rename_i hserved
      have hpos : 0 < available := by omega
      have hgiven : ¬column.given < column.need := by simpa [hpos] using hserved
      exact List.forall_mem_cons.2 ⟨fun hneed => by omega, ih (by omega)⟩

/-- Later rounds take nothing away again. -/
theorem served_dealRounds {rounds available : Nat} {columns : List Share} (hrounds : 0 < rounds)
    (h : columns.length ≤ available) :
    ∀ column ∈ dealRounds rounds available columns, column.Served := by
  obtain ⟨rounds, rfl⟩ := Nat.exists_eq_succ_of_ne_zero (Nat.ne_of_gt hrounds)
  exact forall_mem_dealRounds (fun _ _ _ _ => Nat.succ_pos _) rounds _ (served_dealRound h)

/-- What columns get of the places that are shared out among them: none more than it needs, and each
something if there is a place for every column. -/
theorem forall₂_shareOut (available : Nat) (needs : List Nat) :
    List.Forall₂ (fun need share => share ≤ need ∧
      (needs.length ≤ available → 0 < need → 0 < share)) needs (shareOut available needs) := by
  have hneeds : (dealRounds available available (needs.map fun need => ⟨0, need⟩)).map Share.need =
      needs := by
    rw [map_need_dealRounds, List.map_map]
    exact List.map_id _
  -- no column is given more than it needs
  have hwithin : ∀ column ∈ dealRounds available available (needs.map fun need => ⟨0, need⟩),
      column.given ≤ column.need :=
    forall_mem_dealRounds (fun _ _ hless => hless) _ _ (by simp)
  rw [shareOut]
  conv => arg 2; rw [← hneeds]
  rw [List.forall₂_map_left_iff, List.forall₂_map_right_iff, List.forall₂_same]
  refine fun column hcolumn => ⟨hwithin column hcolumn, fun hlength hneed => ?_⟩
  -- the first round serves every column
  have hsome : 0 < needs.length := by
    rw [← hneeds, List.length_map]
    exact List.length_pos_of_mem hcolumn
  exact served_dealRounds (by omega) (by simpa using hlength) column hcolumn hneed

/-- No more is shared out than there is. -/
theorem sum_shareOut_le (available : Nat) (needs : List Nat) :
    (shareOut available needs).sum ≤ available := by
  have hsum := sum_dealRounds_le available available (needs.map fun need => ⟨0, need⟩)
  have hstart : ((needs.map fun need => (⟨0, need⟩ : Share)).map Share.given).sum = 0 := by
    simp [List.sum_eq_zero_iff]
  rw [shareOut]
  omega

/-! ## The widths -/

variable {t : Table} {widths : List Nat}

/-- Fixed widths are taken as they are. -/
theorem columnWidths_of_fixedWidths {fixed : List Nat} (hfixed : t.fixedWidths = some fixed)
    (h : t.columnWidths = .ok widths) : fixed = widths := by
  rw [columnWidths, hfixed] at h
  exact Except.ok.inj h

/-- The widths that a table without fixed widths is drawn with. -/
structure Allotted (t : Table) (widths : List Nat) : Prop where
  /-- No column is wider than it needs, and one that needs something is given something. -/
  needs : List.Forall₂ (fun need width => width ≤ need ∧ (0 < need → 0 < width)) t.contentWidths
    widths
  /-- The columns, and what is drawn around them, are within the limit. -/
  limit : 0 < t.maxWidth →
    widths.sum + t.decorationWidth (t.columnCount.getD 0) ≤ t.maxWidth

/-- There is a need for each column. -/
theorem length_contentWidths (t : Table) : t.contentWidths.length = t.columnCount.getD 0 := by
  rw [contentWidths_eq, List.length_map, List.length_range]

/-- The columns have what they need if there is room for all of them, and else share what the limit
leaves if there is one place for each. -/
theorem columnWidths_eq_ok (hfixed : t.fixedWidths = none) :
    t.columnWidths = .ok widths ↔
      (t.maxWidth = 0 ∨
          t.contentWidths.sum + t.decorationWidth (t.columnCount.getD 0) ≤ t.maxWidth) ∧
          widths = t.contentWidths ∨
        (0 < t.maxWidth ∧
          t.maxWidth < t.contentWidths.sum + t.decorationWidth (t.columnCount.getD 0)) ∧
          t.columnCount.getD 0 + t.decorationWidth (t.columnCount.getD 0) ≤ t.maxWidth ∧
          widths =
            shareOut (t.maxWidth - t.decorationWidth (t.columnCount.getD 0)) t.contentWidths := by
  simp only [columnWidths, hfixed, total_eq_sum]
  split
  · -- all columns get what they need
    rename_i hroom
    rw [Except.ok.injEq, eq_comm]
    exact ⟨fun h => .inl ⟨hroom, h⟩, fun h => h.elim And.right fun hwide => by omega⟩
  · split
    · -- there is no place for each of them
      rename_i hwide hless
      simp only [reduceCtorEq, false_iff]
      omega
    · -- the places are shared out
      rename_i hwide henough
      rw [Except.ok.injEq, eq_comm]
      exact ⟨fun h => .inr ⟨by omega, by omega, h⟩, fun h => h.elim (fun hroom => by omega) (·.2.2)⟩

/-- However the widths came about, they are allotted. -/
theorem allotted_of_columnWidths (hfixed : t.fixedWidths = none)
    (h : t.columnWidths = .ok widths) : t.Allotted widths := by
  rcases (columnWidths_eq_ok hfixed).1 h with ⟨hroom, rfl⟩ | ⟨-, henough, rfl⟩
  · -- every column has what it needs
    exact ⟨List.forall₂_same.2 fun need _ => ⟨Nat.le_refl _, id⟩,
      fun hlimit => hroom.resolve_left (Nat.ne_of_gt hlimit)⟩
  · have hlength := length_contentWidths t
    have hsum := sum_shareOut_le
      (t.maxWidth - t.decorationWidth (t.columnCount.getD 0)) t.contentWidths
    exact ⟨(forall₂_shareOut _ _).imp fun need share hshare =>
        ⟨hshare.1, hshare.2 (by omega)⟩, fun _ => by omega⟩

/-- There are as many widths as columns. -/
theorem Allotted.length (h : t.Allotted widths) : widths.length = t.columnCount.getD 0 := by
  rw [← h.needs.length_eq, length_contentWidths]

/-- There are no widths just if the limit is below what the columns need, and below one place for
each of them, with what is drawn around them. -/
theorem columnWidths_eq_error {cause : TableError} (hfixed : t.fixedWidths = none) :
    t.columnWidths = .error cause ↔
      0 < t.maxWidth ∧
        t.maxWidth < t.decorationWidth (t.columnCount.getD 0) +
          min (t.columnCount.getD 0) t.contentWidths.sum ∧
        cause = .maxWidthTooSmall t.maxWidth
          (t.columnCount.getD 0 + t.decorationWidth (t.columnCount.getD 0)) := by
  simp only [columnWidths, hfixed, total_eq_sum]
  split
  · -- there is room for what the columns need
    rename_i hwide
    simp only [reduceCtorEq, false_iff]
    omega
  · split
    · -- there is no place for each of them
      rename_i hnarrow hless
      rw [Except.error.injEq, eq_comm]
      refine ⟨fun hcause => ⟨by omega, by omega, hcause⟩, fun h => h.2.2⟩
    · simp only [reduceCtorEq, false_iff]
      omega

end Table

end Gemtext
