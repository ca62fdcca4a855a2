import Gemtext.Table.Draw

/-!
# Sequences of table operations

A table is made by operations, in any order, some of which may be refused.  `Operation.run` makes
one of them, which leaves the table as it is where it is refused, and `Table.after` makes them in
turn.

Whatever is put into a table is checked against its number of columns first
(`fitColumns_eq_ok`).  So at all times the rows have as many cells as the table has columns, and so
has the header, unless there is none (`Formed.after`).  That does not hold of the settings per
column: they outlive a reset, which forgets the number of columns.
-/

namespace Gemtext

namespace Table

/-! ## Operations -/

/-- An operation on a table, with its arguments. -/
inductive Operation where
  | setStyle (name : Text)
  | setGlyphs (glyphs : Text)
  | setAlignments (alignments : List Alignment)
  | setHeaderAlignments (alignments : List Alignment)
  | setVerticalAlignments (alignments : List VerticalAlignment)
  | setTypes (types : List CellType)
  | setWidths (widths : List Nat)
  | setPrecision (precision : Nat)
  | setPadding (padding : Nat)
  | setMaxWidth (maxWidth : Nat)
  | setDecorations (decorations : Decorations)
  | setHeader (header : List Text)
  | addRow (row : List Text)
  | addRows (rows : List (List Text))
  | addRowsWithHeader (rows : List (List Text))
  | reset
  deriving DecidableEq

/-- The table that an operation answers with, or the table as it is, and why it is refused. -/
def settle (t : Table) : Except TableError Table → Table × Option TableError
  | .ok changed => (changed, none)
  | .error cause => (t, some cause)

namespace Operation

/-- Make the operation: the table afterwards, and why it is refused, if it is. -/
def run (t : Table) : Operation → Table × Option TableError
  | setStyle name => t.settle (t.setStyle name)
  | setGlyphs glyphs => t.settle (t.setGlyphs glyphs)
  | setAlignments alignments => t.settle (t.setAlignments alignments)
  | setHeaderAlignments alignments => t.settle (t.setHeaderAlignments alignments)
  | setVerticalAlignments alignments => t.settle (t.setVerticalAlignments alignments)
  | setTypes types => t.settle (t.setTypes types)
  | setWidths widths => t.settle (t.setWidths widths)
  | setPrecision precision => (t.setPrecision precision, none)
  | setPadding padding => (t.setPadding padding, none)
  | setMaxWidth maxWidth => (t.setMaxWidth maxWidth, none)
  | setDecorations decorations => (t.setDecorations decorations, none)
  | setHeader header => t.settle (t.setHeader header)
  | addRow row => t.settle (t.addRow row)
  | addRows rows => t.addRows rows
  | addRowsWithHeader rows => t.addRowsWithHeader rows
  | reset => (t.reset, none)

end Operation

/-- The table after the operations, made in turn. -/
def after (t : Table) (ops : List Operation) : Table :=
  ops.foldl (fun t op => (op.run t).1) t

@[simp]
theorem after_nil (t : Table) : t.after [] = t := rfl

@[simp]
theorem after_cons (t : Table) (op : Operation) (ops : List Operation) :
    t.after (op :: ops) = (op.run t).1.after ops := rfl

/-! ## Operations one by one -/

variable {t t₁ : Table}

/-- What is put into a table fixes the number of its columns, or agrees with it. -/
theorem fitColumns_eq_ok {found : Nat} :
    t.fitColumns found = .ok t₁ ↔
      (t.columnCount = none ∨ t.columnCount = some found) ∧
        t₁ = { t with columnCount := some found } := by
  unfold fitColumns
  cases hcount : t.columnCount with
  | none => simp [eq_comm]
  | some expected =>
    by_cases hfound : expected = found
    · have hself : { t with columnCount := some found } = t := by rw [← hfound, ← hcount]
      simp [hfound, hself, eq_comm]
    · simp [hfound]

/-- Something that is put into a table with `found` columns. -/
theorem map_fitColumns_eq_ok {found : Nat} {change : Table → Table} :
    (t.fitColumns found).map change = .ok t₁ ↔
      (t.columnCount = none ∨ t.columnCount = some found) ∧
        t₁ = change { t with columnCount := some found } := by
  -- the columns fit if none are fixed yet, or as many
  cases hfit : t.fitColumns found with
  | error cause =>
    have hnot : ¬(t.columnCount = none ∨ t.columnCount = some found) := fun h => by
      have hok : t.fitColumns found = .ok { t with columnCount := some found } :=
        fitColumns_eq_ok.2 ⟨h, rfl⟩
      rw [hok] at hfit
      cases hfit
    simp [Except.map, hnot]
  | ok fitted =>
    obtain ⟨hcount, rfl⟩ := fitColumns_eq_ok.1 hfit
    simp [Except.map, hcount, eq_comm]

/-! ## What the operations keep -/

/-- A table that measures characters by `measure`.  The cells of its header and of its rows are as
many as its columns, and a fixed width is one place at least. -/
structure Formed (measure : Measure) (t : Table) : Prop where
  measure_eq : t.measure = measure
  header : t.header = [] ∨ t.columnCount = some t.header.length
  rows : ∀ row ∈ t.rows, t.columnCount = some row.length
  fixedWidths : ∀ widths, t.fixedWidths = some widths → ∀ width ∈ widths, 1 ≤ width

/-- Formatting changes no number of cells. -/
theorem length_formatRow (precision : Nat) (types : List CellType) (row : List Text) :
    (formatRow precision types row).length = row.length := by
  fun_induction formatRow precision types row with
  | case1 type types cell cells ih => rw [List.length_cons, List.length_cons, ih]
  | case2 => rfl
  | case3 => rfl

namespace Formed

variable {measure : Measure}

/-- A table begins well formed. -/
theorem empty (measure : Measure) : (Table.empty measure).Formed measure where
  measure_eq := rfl
  header := .inl rfl
  rows := by simp [Table.empty]
  fixedWidths := by simp [Table.empty]

/-- The header and the rows have as many cells as the table has columns; there may be no header. -/
theorem length_of_mem (ht : t.Formed measure) {row : List Text} (hrow : row ∈ t.header :: t.rows) :
    row = [] ∨ t.columnCount = some row.length := by
  rcases List.mem_cons.1 hrow with rfl | hrow
  · exact ht.header
  · exact .inr (ht.rows row hrow)

/-- A change of the settings that have nothing to do with the cells. -/
theorem congr (ht : t.Formed measure) (hmeasure : t₁.measure = t.measure)
    (hheader : t₁.header = t.header) (hrows : t₁.rows = t.rows)
    (hcount : t₁.columnCount = t.columnCount) (hfixed : t₁.fixedWidths = t.fixedWidths) :
    t₁.Formed measure where
  measure_eq := hmeasure.trans ht.measure_eq
  header := by rw [hheader, hcount]; exact ht.header
  rows := by rw [hrows, hcount]; exact ht.rows
  fixedWidths := by rw [hfixed]; exact ht.fixedWidths

/-- Whatever has cells already has fixed the number of columns. -/
theorem fit (ht : t.Formed measure) {found : Nat}
    (h : t.columnCount = none ∨ t.columnCount = some found) :
    Formed measure { t with columnCount := some found } where
  measure_eq := ht.measure_eq
  header := by
    -- the number of columns was not fixed before, or is the same
    refine ht.header.imp_right fun hheader => ?_
    rcases h with h | h
    · rw [h] at hheader
      cases hheader
    · exact h ▸ hheader
  rows row hrow := by
    have hcount := ht.rows row hrow
    rcases h with h | h
    · rw [h] at hcount
      cases hcount
    · exact h ▸ hcount
  fixedWidths := ht.fixedWidths

/-- A header that is set has as many cells as there are columns. -/
theorem setHeader (ht : t.Formed measure) {header : List Text} (h : t.setHeader header = .ok t₁) :
    t₁.Formed measure := by
  obtain ⟨hcount, rfl⟩ := map_fitColumns_eq_ok.1 h
  have hfit := ht.fit hcount
  exact ⟨hfit.measure_eq, .inr rfl, hfit.rows, hfit.fixedWidths⟩

/-- A row that is added has as many cells as there are columns. -/
theorem addRow (ht : t.Formed measure) {row : List Text} (h : t.addRow row = .ok t₁) :
    t₁.Formed measure := by
  obtain ⟨hcount, rfl⟩ := map_fitColumns_eq_ok.1 h
  have hfit := ht.fit hcount
  refine ⟨hfit.measure_eq, hfit.header, fun other hother => ?_, hfit.fixedWidths⟩
  rcases List.mem_append.1 hother with hother | hother
  · exact hfit.rows other hother
  · rw [List.mem_singleton.1 hother, length_formatRow]

/-- Each row that is added before one is refused fits. -/
theorem addRows (ht : t.Formed measure) (rows : List (List Text)) :
    (t.addRows rows).1.Formed measure := by
  induction rows generalizing t with
  | nil => exact ht
  | cons row rows ih =>
    rw [Table.addRows]
    cases hrow : t.addRow row with
    | error cause => exact ht
    | ok longer => exact ih (ht.addRow hrow)

/-- The same with a header in front. -/
theorem addRowsWithHeader (ht : t.Formed measure) (rows : List (List Text)) :
    (t.addRowsWithHeader rows).1.Formed measure := by
  cases rows with
  | nil => exact ht
  | cons header rows =>
    rw [Table.addRowsWithHeader]
    cases hheader : t.setHeader header with
    | error cause => exact ht
    | ok headed => exact (ht.setHeader hheader).addRows rows

/-- Fixed widths are positive. -/
theorem setWidths (ht : t.Formed measure) {widths : List Nat} (h : t.setWidths widths = .ok t₁) :
    t₁.Formed measure := by
  obtain ⟨hcount, rfl⟩ := map_fitColumns_eq_ok.1 h
  have hfit := ht.fit hcount
  refine ⟨hfit.measure_eq, hfit.header, hfit.rows, fun fixed hfixed width hwidth => ?_⟩
  obtain rfl : widths.map (max · 1) = fixed := Option.some.inj hfixed
  obtain ⟨asked, -, rfl⟩ := List.mem_map.1 hwidth
  exact Nat.le_max_right asked 1

/-- A refused operation leaves the table as it is. -/
theorem settle (ht : t.Formed measure) {answer : Except TableError Table}
    (h : ∀ changed, answer = .ok changed → changed.Formed measure) :
    (t.settle answer).1.Formed measure := by
  cases answer with
  | error cause => exact ht
  | ok changed => exact h changed rfl

/-- A setting per column that has nothing to do with the cells. -/
theorem settle_fit (ht : t.Formed measure) {found : Nat} {change : Table → Table}
    (h : ∀ fitted : Table, fitted.Formed measure → (change fitted).Formed measure) :
    (t.settle ((t.fitColumns found).map change)).1.Formed measure :=
  ht.settle fun changed hchanged => by
    obtain ⟨hcount, rfl⟩ := map_fitColumns_eq_ok.1 hchanged
    exact h _ (ht.fit hcount)

/-- A choice of glyphs. -/
theorem settle_glyphs (ht : t.Formed measure) (glyphs : Except TableError Glyphs) :
    (t.settle (glyphs.map fun glyphs => { t with glyphs })).1.Formed measure := by
  cases glyphs with
  | error cause => exact ht
  | ok glyphs => exact ht.congr rfl rfl rfl rfl rfl

/-- Every operation keeps the form, be it refused or not. -/
theorem run (ht : t.Formed measure) (op : Operation) : (op.run t).1.Formed measure := by
  cases op with
  | setStyle | setGlyphs => exact ht.settle_glyphs _
  | setAlignments | setHeaderAlignments | setVerticalAlignments | setTypes =>
    exact ht.settle_fit fun _ hfit => hfit.congr rfl rfl rfl rfl rfl
  | setPrecision | setPadding | setMaxWidth | setDecorations => exact ht.congr rfl rfl rfl rfl rfl
  | setWidths => exact ht.settle fun _ h => ht.setWidths h
  | setHeader => exact ht.settle fun _ h => ht.setHeader h
  | addRow => exact ht.settle fun _ h => ht.addRow h
  | addRows rows => exact ht.addRows rows
  | addRowsWithHeader rows => exact ht.addRowsWithHeader rows
  | reset => exact ⟨ht.measure_eq, .inl rfl, List.forall_mem_nil _, ht.fixedWidths⟩

/-- A table is formed after any operations. -/
theorem after (ht : t.Formed measure) (ops : List Operation) : (t.after ops).Formed measure := by
  induction ops generalizing t with
  | nil => rwa [after_nil]
  | cons op ops ih =>
    rw [after_cons]
    exact ih (ht.run op)

end Formed

end Table

end Gemtext
