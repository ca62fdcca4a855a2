import Gemtext.Proofs.Table.Widths
import Gemtext.Proofs.Table.Operations
import Gemtext.Text.CharWidth

/-!
# Columns share the places fairly

When the columns need more than the limit leaves them, the places are dealt in rounds, as long as
there are some and a round gives some away.  `Dealt` is this loop, without a bound on the number of
its rounds, and `dealt_dealRounds` says that it ends with the columns that `dealRounds` answers
with, if it is allowed as many rounds as there are places.

Before each round the columns are level: each has as many places as rounds have been dealt, or what
it needs (`filled`).  A round raises them to the next level, up to the column where the places run
out (`exists_dealRound_filled`).  So in the end the columns are level, but for one place that those
in front have in addition (`Dealt.exists_filled`), and nothing is left unless no column needs more
(`Dealt.sum`).
-/

namespace Gemtext

namespace Table

/-! ## Dealing until nothing is left -/

/-- Rounds are dealt as long as places are left, and end with the last column list. -/
inductive Dealt : Nat → List Share → List Share → Prop where
  /-- No place is left. -/
  | spent (columns : List Share) : Dealt 0 columns columns
  /-- A round gives no place away. -/
  | idle {available : Nat} {columns : List Share} (hpos : 0 < available)
    (hidle : (dealRound available columns).2 = available) : Dealt available columns columns
  /-- A round gives places away, and the others follow. -/
  | round {available : Nat} {columns dealt : List Share}
    (hless : (dealRound available columns).2 < available)
    (hothers : Dealt (dealRound available columns).2 (dealRound available columns).1 dealt) :
    Dealt available columns dealt

/-- A round deals no more than there is. -/
theorem dealRound_snd_le (available : Nat) (columns : List Share) :
    (dealRound available columns).2 ≤ available := by
  induction columns generalizing available with
  | nil => exact Nat.le_refl _
  | cons column columns ih =>
    rw [dealRound]
    split
    · exact Nat.le_trans (ih (available - 1)) (Nat.sub_le available 1)
    · exact ih available

/-- A round that gives no place away changes nothing. -/
theorem dealRound_fst_of_idle {available : Nat} {columns : List Share}
    (h : (dealRound available columns).2 = available) :
    (dealRound available columns).1 = columns := by
  induction columns with
  | nil => rfl
  | cons column columns ih =>
    rw [dealRound] at h ⊢
    split at h
    · rename_i hneeds
      rw [Bool.and_eq_true, decide_eq_true_eq] at hneeds
      -- a column that needs a place would get one
      have hless := dealRound_snd_le (available - 1) columns
      have hpos : 0 < available := hneeds.1
      dsimp only at h
      omega
    · rename_i hneeds
      rw [if_neg hneeds]
      exact congrArg (column :: ·) (ih h)

/-- If there are places and a round gives none away, no column needs more. -/
theorem need_le_given_of_idle {available : Nat} {columns : List Share} (hpos : 0 < available)
    (h : (dealRound available columns).2 = available) :
    ∀ column ∈ columns, column.need ≤ column.given := by
  induction columns with
  | nil => exact List.forall_mem_nil _
  | cons column columns ih =>
    rw [dealRound] at h
    split at h
    · -- a column that needs a place would get one
      have hless := dealRound_snd_le (available - 1) columns
      dsimp only at h
      omega
    · rename_i hneeds
      simp only [hpos, decide_true, Bool.true_and, decide_eq_true_eq, Nat.not_lt] at hneeds
      exact List.forall_mem_cons.2 ⟨hneeds, ih h⟩

/-- Once a round deals nothing, no later one does. -/
theorem dealRounds_of_idle {available : Nat} {columns : List Share}
    (h : (dealRound available columns).2 = available) (rounds : Nat) :
    dealRounds rounds available columns = columns := by
  induction rounds with
  | zero => rfl
  | succ rounds ih =>
    rw [dealRounds]
    dsimp only
    rw [dealRound_fst_of_idle h, h, ih]

/-- Dealing comes to an end, at the latest after as many rounds as there are places. -/
theorem dealt_dealRounds {rounds available : Nat} (h : available ≤ rounds) (columns : List Share) :
    Dealt available columns (dealRounds rounds available columns) := by
  induction rounds generalizing available columns with
  | zero =>
    obtain rfl : available = 0 := by omega
    exact .spent columns
  | succ rounds ih =>
    have hle := dealRound_snd_le available columns
    -- every round deals a place, unless all have what they need
    by_cases hidle : (dealRound available columns).2 = available
    · rw [dealRounds_of_idle hidle]
      by_cases hpos : 0 < available
      · exact .idle hpos hidle
      · obtain rfl : available = 0 := by omega
        exact .spent columns
    · exact .round (by omega) (ih (by omega) _)

/-- All places are dealt, unless no column needs more. -/
theorem Dealt.sum {available : Nat} {columns dealt : List Share}
    (h : Dealt available columns dealt) :
    (dealt.map Share.given).sum = (columns.map Share.given).sum + available ∨
      ∀ column ∈ dealt, column.need ≤ column.given := by
  induction h with
  | spent columns => exact .inl rfl
  | idle hpos hidle => exact .inr (need_le_given_of_idle hpos hidle)
  | @round available columns _ hless _ ih =>
    have hround := sum_dealRound available columns
    exact ih.imp_left fun hothers => by omega

/-! ## Levels -/

/-- A column that is filled up to a level, or to what it needs. -/
def filled (level need : Nat) : Share :=
  ⟨min need level, need⟩

/-- The first columns are filled up to one level, and the others up to another one. -/
def filledUpTo (first level : Nat) (needs : List Nat) : List Share :=
  (needs.take first).map (filled (level + 1)) ++ (needs.drop first).map (filled level)

/-- A round raises the columns to the next level, up to the one where the places run out. -/
theorem exists_dealRound_filled (available level : Nat) (needs : List Nat) :
    ∃ first, (dealRound available (needs.map (filled level))).1 = filledUpTo first level needs ∧
      ((dealRound available (needs.map (filled level))).2 = 0 ∨ first = needs.length) := by
  induction needs generalizing available with
  | nil => exact ⟨0, rfl, .inr rfl⟩
  | cons need needs ih =>
    rw [List.map_cons, dealRound]
    split
    · rename_i hneeds
      rw [Bool.and_eq_true, decide_eq_true_eq, decide_eq_true_eq] at hneeds
      -- the column below its need is at the level, so that one place lifts it to the next
      obtain ⟨first, hcolumns, hleft⟩ := ih (available - 1)
      have hraised : (⟨(filled level need).given + 1, (filled level need).need⟩ : Share) =
          filled (level + 1) need := by
        have hless : min need level < need := hneeds.2
        simp only [filled, Share.mk.injEq, and_true]
        omega
      refine ⟨first + 1, ?_, hleft.imp_right fun h => by rw [h, List.length_cons]⟩
      dsimp only
      rw [hcolumns, hraised]
      rfl
    · rename_i hneeds
      by_cases hnone : available = 0
      · -- nothing is left for this column, nor for the others
        subst hnone
        have hidle := Nat.le_zero.1 (dealRound_snd_le 0 (needs.map (filled level)))
        refine ⟨0, ?_, .inl hidle⟩
        dsimp only
        rw [dealRound_fst_of_idle hidle]
        rfl
      · -- the column has what it needs, at this level and at the next
        obtain ⟨first, hcolumns, hleft⟩ := ih available
        have hsame : filled level need = filled (level + 1) need := by
          have hserved : ¬min need level < need := by
            simpa [filled, Nat.pos_of_ne_zero hnone] using hneeds
          simp only [filled, Share.mk.injEq, and_true]
          omega
        refine ⟨first + 1, ?_, hleft.imp_right fun h => by rw [h, List.length_cons]⟩
        dsimp only
        rw [hcolumns, hsame]
        rfl

/-- Without places there is nothing to deal. -/
theorem Dealt.eq_of_spent {columns dealt : List Share} (h : Dealt 0 columns dealt) :
    dealt = columns := by
  cases h with
  | spent => rfl
  | idle => rfl
  | round hless => exact absurd hless (Nat.not_lt_zero _)

/-- In the end the columns are level, but for a place that the first of them have in addition. -/
theorem Dealt.exists_filled {available level : Nat} {needs : List Nat} {dealt : List Share}
    (h : Dealt available (needs.map (filled level)) dealt) :
    ∃ first level, dealt = filledUpTo first level needs := by
  generalize hcolumns : needs.map (filled level) = columns at h
  induction h generalizing level with
  | spent => exact ⟨0, level, hcolumns.symm⟩
  | idle => exact ⟨0, level, hcolumns.symm⟩
  | @round available columns dealt _ hothers ih =>
    subst hcolumns
    obtain ⟨first, hround, hleft⟩ := exists_dealRound_filled available level needs
    -- either this was the last round, or all columns are at the next level
    rcases hleft with hleft | rfl
    · rw [hleft] at hothers
      exact ⟨first, level, hothers.eq_of_spent.trans hround⟩
    · have hraised : needs.map (filled (level + 1)) =
          (dealRound available (needs.map (filled level))).1 := by
        rw [hround]
        simp [filledUpTo]
      exact ih hraised

/-! ## What the columns get -/

/-- Sharing out is dealing to columns that have nothing yet. -/
theorem exists_dealt_shareOut (available : Nat) (needs : List Nat) :
    ∃ dealt, Dealt available (needs.map (filled 0)) dealt ∧ dealt.map Share.need = needs ∧
      shareOut available needs = dealt.map Share.given := by
  have hempty : (needs.map fun need => (⟨0, need⟩ : Share)) = needs.map (filled 0) := by
    simp [filled]
  refine ⟨_, dealt_dealRounds (Nat.le_refl available) _, ?_, by rw [shareOut, hempty]⟩
  rw [map_need_dealRounds, List.map_map]
  exact List.map_id _

/-- No more places are given than needed, and no fewer than there are. -/
theorem sum_shareOut {available : Nat} {needs : List Nat} (h : available ≤ needs.sum) :
    (shareOut available needs).sum = available := by
  have hle := sum_shareOut_le available needs
  obtain ⟨dealt, hdealt, hneeds, hshares⟩ := exists_dealt_shareOut available needs
  rcases hdealt.sum with hsum | hserved
  · have hstart : ((needs.map (filled 0)).map Share.given).sum = 0 := by
      simp [List.sum_eq_zero_iff, filled]
    rw [hshares]
    omega
  · have hall : (dealt.map Share.need).sum ≤ (dealt.map Share.given).sum :=
      List.sum_le_sum hserved
    rw [hneeds, ← hshares] at hall
    omega

/-- The shares are what is needed, up to a level, or the next one for the first columns. -/
theorem exists_level_shareOut (available : Nat) (needs : List Nat) :
    ∃ first level, ∀ i, (hi : i < needs.length) →
      (shareOut available needs)[i]? =
        some (min needs[i] (if i < first then level + 1 else level)) := by
  obtain ⟨dealt, hdealt, -, hshares⟩ := exists_dealt_shareOut available needs
  obtain ⟨first, level, rfl⟩ := hdealt.exists_filled
  refine ⟨first, level, fun i hi => ?_⟩
  rw [hshares, filledUpTo, List.map_append, List.map_map, List.map_map, List.getElem?_append]
  simp only [List.length_map, List.length_take, List.getElem?_map]
  -- the first columns are one place further than the others
  by_cases hfirst : i < first
  · rw [if_pos (by omega), if_pos hfirst]
    simp [hfirst, hi, filled]
  · rw [if_neg (by omega), if_neg hfirst]
    have hindex : first + (i - first) = i := by omega
    have hmin : min first needs.length = first := by omega
    simp [hmin, hindex, hi, filled]

/-- The columns of a table that is too wide share the places that the limit leaves them fairly.  If
there is one place for each column, dealing the places comes to an end and gives them all away; the
columns are level, but for one place that those in front have in addition, or have what they need.
So no column has more than it needs, one that needs something has something, and of two that have
less than they need the first has as much as the second, or one place more. -/
theorem columnWidths_fair {t : Table} (hfixed : t.fixedWidths = none) {columns : Nat}
    (hcolumns : t.columnCount.getD 0 = columns) (hlimit : 0 < t.maxWidth)
    (hwide : t.maxWidth <
      ((List.range columns).map t.columnNeed).sum + t.decorationWidth columns)
    (hroom : columns + t.decorationWidth columns ≤ t.maxWidth) :
    ∃ (dealt : List Share) (width : Nat → Nat),
      Dealt (t.maxWidth - t.decorationWidth columns)
          ((List.range columns).map fun i => ⟨0, t.columnNeed i⟩) dealt ∧
        dealt.map Share.given = (List.range columns).map width ∧
        t.columnWidths = .ok ((List.range columns).map width) ∧
        ((List.range columns).map width).sum = t.maxWidth - t.decorationWidth columns ∧
        (∃ first level, ∀ i < columns,
          width i = min (t.columnNeed i) (if i < first then level + 1 else level)) ∧
        (∀ i < columns, width i ≤ t.columnNeed i ∧ (0 < t.columnNeed i → 1 ≤ width i)) ∧
        ∀ i j, i < j → j < columns → width i < t.columnNeed i → width j < t.columnNeed j →
          width j ≤ width i ∧ width i ≤ width j + 1 := by
  -- the columns need what their widest cells do
  have hneeds : t.contentWidths = (List.range columns).map t.columnNeed := by
    rw [contentWidths_eq, hcolumns]
  rw [← hneeds] at hwide
  have hlength := length_contentWidths t
  have hempty : t.contentWidths.map (filled 0) =
      (List.range columns).map fun i => ⟨0, t.columnNeed i⟩ := by
    rw [hneeds, List.map_map]
    simp [filled, Function.comp_def]
  let available := t.maxWidth - t.decorationWidth columns
  obtain ⟨dealt, hdealt, hsame, hshares⟩ := exists_dealt_shareOut available t.contentWidths
  obtain ⟨first, level, hlevel⟩ := exists_level_shareOut available t.contentWidths
  -- there are too few places for all, so all of them are dealt
  have hsum : (shareOut available t.contentWidths).sum = available := sum_shareOut (by omega)
  -- the columns are wide, but there is a place for each
  have hok : t.columnWidths = .ok (shareOut available t.contentWidths) := by
    rw [columnWidths_eq_ok hfixed, hcolumns]
    exact .inr ⟨⟨hlimit, hwide⟩, hroom, rfl⟩
  let width (i : Nat) : Nat := min (t.columnNeed i) (if i < first then level + 1 else level)
  -- what is dealt to a column is its level, or what it needs
  have hwidths : dealt.map Share.given = (List.range columns).map width := by
    have hdealtLength : dealt.length = columns := by
      rw [← List.length_map Share.need, hsame, hlength, hcolumns]
    refine List.ext_getElem (by simp [hdealtLength]) fun i hi₁ hi₂ => ?_
    have hi : i < t.contentWidths.length := by simpa [hlength, hcolumns] using hi₂
    have hshare := hlevel i hi
    rw [hshares, List.getElem?_eq_getElem hi₁] at hshare
    simpa [hneeds, width] using hshare
  rw [hshares, hwidths] at hok hsum
  refine ⟨dealt, width, hempty ▸ hdealt, hwidths, hok, hsum, ⟨first, level, fun i _ => rfl⟩,
    fun i hi => ⟨Nat.min_le_left _ _, fun hneed => ?_⟩, fun i j hij _ hi hj => ?_⟩
  · -- with a place for each column, none is left without one
    have hallotted := (allotted_of_columnWidths hfixed hok).needs
    have hshare := List.Forall₂.get hallotted (i := i) (by omega) (by simpa using hi)
    simp only [List.get_eq_getElem, hneeds, List.getElem_map, List.getElem_range] at hshare
    exact hshare.2 hneed
  · -- both are at the level of their column
    have hfull (column : Nat) (h : width column < t.columnNeed column) :
        width column = if column < first then level + 1 else level := by
      have hmin : width column =
          min (t.columnNeed column) (if column < first then level + 1 else level) := rfl
      omega
    rw [hfull i hi, hfull j hj]
    split <;> split <;> omega

/-- Three columns that need ten places, one and nine share ten: the round for all is followed by
three for the two that need more, and the last place goes to the first of them. -/
theorem columnWidths_fair_three :
    let t := (Table.empty charWidth).after
      [.setMaxWidth 20, .setHeader ["to the sea".toList, [], ['c']],
        .addRow [['a'], ['b'], "a\tb".toList]]
    (List.range 3).map t.columnNeed = [10, 1, 9] ∧ t.decorationWidth 3 = 10 ∧
      ∃ width : Nat → Nat, t.columnWidths = .ok ((List.range 3).map width) ∧
        (List.range 3).map width = [5, 1, 4] ∧
        ∃ first level, ∀ i < 3,
          width i = min (t.columnNeed i) (if i < first then level + 1 else level) := by
  intro t
  -- the second column needs one place, and the others share what is left
  have hneeds : (List.range 3).map t.columnNeed = [10, 1, 9] := by decide +kernel
  have hok : t.columnWidths = .ok [5, 1, 4] := by decide +kernel
  have hcolumns : t.columnCount.getD 0 = 3 := rfl
  obtain ⟨-, width, -, -, hwidths, -, hlevel, -⟩ :=
    columnWidths_fair (t := t) rfl hcolumns (by decide) (by rw [hneeds]; decide) (by decide)
  have hsame : (List.range 3).map width = [5, 1, 4] := Except.ok.inj (hwidths.symm.trans hok)
  exact ⟨hneeds, by decide, width, hwidths, hsame, hlevel⟩

end Table

end Gemtext
