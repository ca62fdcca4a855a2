import Gemtext.Proofs.Table.Lines
import Gemtext.Proofs.Table.Operations
import Gemtext.Proofs.Table.Widths
import Gemtext.Text.CharWidth

/-!
# The least width of a table

A table without fixed widths is drawn with every limit from its least width on, and with no limit
below it (`draw_setMaxWidth_eq_error`).  With the least width, the columns have all that they need,
or one place each, whichever is less.

The failure reports one place for each column.  That is the least width just if the columns need at
least as many places as there are columns (`reported_minimum`).  Where empty columns leave the
others with less to share, the report exceeds the least width (`overstates_minimum_empty`).
-/

namespace Gemtext

namespace Table

variable {t : Table}

/-- The least limit with which the table is drawn. -/
def leastWidth (t : Table) : Nat :=
  t.decorationWidth (t.columnCount.getD 0) + min (t.columnCount.getD 0) t.contentWidths.sum

/-- The width that a failure reports: that of the table with one place for each column. -/
def reportedWidth (t : Table) : Nat :=
  t.columnCount.getD 0 + t.decorationWidth (t.columnCount.getD 0)

/-- The width that is reported is enough. -/
theorem leastWidth_le_reportedWidth (t : Table) : t.leastWidth ≤ t.reportedWidth := by
  unfold leastWidth reportedWidth
  omega

/-- It is more than needed if the columns need fewer places than there are columns. -/
theorem leastWidth_eq_reportedWidth_iff :
    t.leastWidth = t.reportedWidth ↔ t.columnCount.getD 0 ≤ t.contentWidths.sum := by
  unfold leastWidth reportedWidth
  omega

section

variable (hfixed : t.fixedWidths = none)
include hfixed

/-- A table that shows something fails to be drawn just with the limits below its least width. -/
theorem draw_setMaxWidth_eq_error (hshown : ¬(t.header = [] ∧ t.rows = [])) {limit : Nat}
    {cause : TableError} :
    (t.setMaxWidth limit).draw = .error cause ↔
      0 < limit ∧ limit < t.leastWidth ∧ cause = .maxWidthTooSmall limit t.reportedWidth := by
  rw [draw_eq_error, columnWidths_eq_error (t := t.setMaxWidth limit) hfixed]
  exact and_iff_right hshown

/-- A table is drawn within its least width. -/
theorem exists_draw_setMaxWidth {limit : Nat} (h : t.leastWidth ≤ limit) :
    ∃ drawn, (t.setMaxWidth limit).draw = .ok drawn := by
  cases hdraw : (t.setMaxWidth limit).draw with
  | ok drawn => exact ⟨drawn, rfl⟩
  | error cause =>
    have hshown := (draw_eq_error.1 hdraw).1
    have hless := ((draw_setMaxWidth_eq_error hfixed hshown).1 hdraw).2.1
    omega

/-- A failure to draw reports a width with which the same table is drawn.  The table fails in the
same way with each limit below its least width and with no other one.  So the reported width is the
least one just if the columns need at least one place each on average. -/
theorem reported_minimum {maxWidth required : Nat}
    (h : t.draw = .error (.maxWidthTooSmall maxWidth required)) :
    (∃ drawn, (t.setMaxWidth required).draw = .ok drawn) ∧
      (∀ limit, 0 < limit →
        (limit < t.leastWidth →
          (t.setMaxWidth limit).draw = .error (.maxWidthTooSmall limit required)) ∧
        (t.leastWidth ≤ limit → ∃ drawn, (t.setMaxWidth limit).draw = .ok drawn)) ∧
      ((∀ limit, 1 ≤ limit → limit < required →
          ∃ other, (t.setMaxWidth limit).draw = .error (.maxWidthTooSmall limit other)) ↔
        t.columnCount.getD 0 ≤ t.contentWidths.sum) := by
  -- there is something to draw, and too little room for it
  have hshown := (draw_eq_error.1 h).1
  have hsame : (t.setMaxWidth t.maxWidth).draw = .error (.maxWidthTooSmall maxWidth required) := h
  obtain ⟨hpos, hless, hcause⟩ := (draw_setMaxWidth_eq_error hfixed hshown).1 hsame
  obtain ⟨rfl, rfl⟩ := TableError.maxWidthTooSmall.inj hcause
  have hle := leastWidth_le_reportedWidth t
  have hfails (limit : Nat) (hlimit : 0 < limit) (hbelow : limit < t.leastWidth) :
      (t.setMaxWidth limit).draw = .error (.maxWidthTooSmall limit t.reportedWidth) :=
    (draw_setMaxWidth_eq_error hfixed hshown).2 ⟨hlimit, hbelow, rfl⟩
  refine ⟨exists_draw_setMaxWidth hfixed hle,
    fun limit hlimit => ⟨hfails limit hlimit, exists_draw_setMaxWidth hfixed⟩, ?_⟩
  rw [← leastWidth_eq_reportedWidth_iff]
  constructor
  · -- otherwise the table is drawn with its least width, which is below the reported one
    intro hall
    by_contra hne
    obtain ⟨other, herror⟩ := hall t.leastWidth (by omega) (by omega)
    obtain ⟨drawn, hdrawn⟩ := exists_draw_setMaxWidth hfixed (Nat.le_refl t.leastWidth)
    rw [hdrawn] at herror
    cases herror
  · intro hsame limit hlimit hbelow
    exact ⟨t.reportedWidth, hfails limit hlimit (by omega)⟩

end

/-- A column of two places makes up for an empty one: the least width is reported. -/
theorem reported_minimum_empty :
    let t := (Table.empty charWidth).after [.setMaxWidth 10, .setHeader [['a', 'b'], [], ['c']]]
    t.draw = .error (.maxWidthTooSmall 10 13) ∧
      (∃ drawn, (t.setMaxWidth 13).draw = .ok drawn) ∧
      ∃ other, (t.setMaxWidth 12).draw = .error (.maxWidthTooSmall 12 other) := by
  intro t
  have h : t.draw = .error (.maxWidthTooSmall 10 13) := by decide +kernel
  obtain ⟨hdrawn, -, hexact⟩ := reported_minimum (t := t) rfl h
  exact ⟨h, hdrawn, hexact.2 (by decide) 12 (by decide) (by decide)⟩

/-- With two empty columns the table is drawn with less than the reported width. -/
theorem overstates_minimum_empty :
    let t := (Table.empty charWidth).after [.setMaxWidth 10, .setHeader [['a'], [], []]]
    let drawn := ("+---+--+--+\n" ++ "| a |  |  |\n" ++ "+===+==+==+\n" ++ "+---+--+--+").toList
    t.fixedWidths = none ∧ t.draw = .error (.maxWidthTooSmall 10 13) ∧
      (t.setMaxWidth 11).draw = .ok drawn := by
  intro t drawn
  exact ⟨rfl, by decide +kernel, by decide +kernel⟩

end Table

end Gemtext
