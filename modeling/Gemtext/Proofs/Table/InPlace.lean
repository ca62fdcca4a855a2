import Gemtext.Proofs.Table.Operations
import Gemtext.Text.CharWidth

/-!
# Tables that are changed in place

An operation changes its table in place: it checks the number of columns, which may write that
number, and then writes what it puts in; several rows are added one by one.  `Operation.change` is
the operation as such a sequence of writes, and a refusal keeps what was written before it.

What a change leaves is the table that `Operation.run` answers with (`runOn_change`).  An operation
of one step writes nothing before it can be refused, so that a refusal leaves the table as it is
(`refused_step`).  Several rows are as many steps, and a refusal leaves what the accepted ones
have made (`exists_refused_step`).
-/

namespace Gemtext

namespace Table

/-! ## Changes -/

/-- A change that a table undergoes in place.  It may be refused after a part of it. -/
abbrev Change := ExceptT TableError (StateM Table) Unit

namespace Change

/-- Make the change: whether it is refused, and the table that it leaves. -/
def runOn (x : Change) (t : Table) : Except TableError Unit × Table :=
  x.run.run t

/-- Fix the number of columns, or compare it with the one that is fixed. -/
def checkColumns (found : Nat) : Change := do
  match (← get).columnCount with
  | none => modify fun t => { t with columnCount := some found }
  | some expected =>
    if expected = found then pure () else throw (.columnCountMismatch expected found)

/-- Put something with `found` columns into the table. -/
def put (found : Nat) (write : Table → Table) : Change := do
  checkColumns found
  modify write

/-- Choose glyphs. -/
def chooseGlyphs : Except TableError Glyphs → Change
  | .ok glyphs => modify fun t => { t with glyphs }
  | .error cause => throw cause

/-- Set the header. -/
def setHeader (header : List Text) : Change :=
  put header.length fun t => { t with header }

/-- Add a row below the others. -/
def addRow (row : List Text) : Change :=
  put row.length fun t =>
    { t with rows := t.rows ++ [formatRow t.precision (t.types.getD []) row] }

end Change

/-- The operation as changes in place. -/
def Operation.change : Operation → Change
  | setStyle name => Change.chooseGlyphs (Glyphs.named name)
  | setGlyphs glyphs => Change.chooseGlyphs (Glyphs.ofText glyphs)
  | setAlignments alignments =>
    Change.put alignments.length fun t => { t with alignments := some alignments }
  | setHeaderAlignments alignments =>
    Change.put alignments.length fun t => { t with headerAlignments := some alignments }
  | setVerticalAlignments alignments =>
    Change.put alignments.length fun t => { t with verticalAlignments := some alignments }
  | setTypes types => Change.put types.length fun t => { t with types := some types }
  | setWidths widths =>
    Change.put widths.length fun t => { t with fixedWidths := some (widths.map (max · 1)) }
  | setPrecision precision => modify fun t => t.setPrecision precision
  | setPadding padding => modify fun t => t.setPadding padding
  | setMaxWidth maxWidth => modify fun t => t.setMaxWidth maxWidth
  | setDecorations decorations => modify fun t => t.setDecorations decorations
  | setHeader header => Change.setHeader header
  | addRow row => Change.addRow row
  | addRows rows => forM rows Change.addRow
  | addRowsWithHeader [] => pure ()
  | addRowsWithHeader (header :: rows) => do
    Change.setHeader header
    forM rows Change.addRow
  | reset => modify Table.reset

/-- The table after the operations, made on it in turn, be they refused or not. -/
def changedBy (t : Table) (ops : List Operation) : Table :=
  ops.foldl (fun t op => (op.change.runOn t).2) t

/-! ## What changes leave -/

variable {t t₁ : Table} {cause : TableError}

/-- What a change leads to that answers with a table, or is refused without having changed it. -/
def atOnce (t : Table) : Except TableError Table → Except TableError Unit × Table
  | .ok changed => (.ok (), changed)
  | .error cause => (.error cause, t)

/-- What a change leads to that leaves a table, and is refused for the cause if there is one. -/
def answer : Table × Option TableError → Except TableError Unit × Table
  | (changed, none) => (.ok (), changed)
  | (changed, some cause) => (.error cause, changed)

/-- What is settled at once answers at once. -/
theorem answer_settle (t : Table) (result : Except TableError Table) :
    answer (t.settle result) = t.atOnce result := by
  cases result with
  | ok changed => rfl
  | error cause => rfl

namespace Change

/-- The second change follows unless the first one is refused. -/
theorem runOn_bind (x y : Change) (t : Table) :
    runOn (x >>= fun _ => y) t =
      match x.runOn t with
      | (.ok (), t) => y.runOn t
      | (.error cause, t) => (.error cause, t) := by
  have hrun : runOn (x >>= fun _ => y) t =
      ExceptT.bindCont (fun _ => y) (x t).1 (x t).2 := rfl
  have hx : x.runOn t = x t := rfl
  rw [hrun, hx]
  obtain ⟨cause | -, t⟩ := x t
  · rfl
  · rfl

/-- In place, the columns are counted as they are on the table. -/
theorem runOn_checkColumns (found : Nat) (t : Table) :
    (checkColumns found).runOn t = t.atOnce (t.fitColumns found) := by
  have hread : (checkColumns found).runOn t =
      runOn (match t.columnCount with
        | none => modify fun t => { t with columnCount := some found }
        | some expected =>
          if expected = found then pure ()
          else throw (.columnCountMismatch expected found)) t := rfl
  rw [hread, fitColumns]
  cases t.columnCount with
  | none => rfl
  | some expected =>
    by_cases h : expected = found
    · simp only [if_pos h]
      rfl
    · simp only [if_neg h]
      rfl

/-- The number of columns is checked before anything is written. -/
theorem runOn_put (found : Nat) (write : Table → Table) (t : Table) :
    (put found write).runOn t = t.atOnce ((t.fitColumns found).map write) := by
  rw [put, runOn_bind, runOn_checkColumns]
  cases t.fitColumns found with
  | ok fitted => rfl
  | error cause => rfl

/-- In place, glyphs are chosen as they are on the table. -/
theorem runOn_chooseGlyphs (glyphs : Except TableError Glyphs) (t : Table) :
    (chooseGlyphs glyphs).runOn t =
      t.atOnce (glyphs.map fun glyphs => { t with glyphs }) := by
  cases glyphs with
  | ok glyphs => rfl
  | error cause => rfl

/-- Rows are added up to the first one that is refused. -/
theorem runOn_addRows (rows : List (List Text)) (t : Table) :
    runOn (forM rows addRow) t = answer (t.addRows rows) := by
  induction rows generalizing t with
  | nil => rfl
  | cons row rows ih =>
    have hrow : (addRow row).runOn t = t.atOnce (t.addRow row) := runOn_put ..
    rw [List.forM_cons, runOn_bind, hrow, addRows]
    cases t.addRow row with
    | ok longer => exact ih longer
    | error cause => rfl

end Change

open Change

/-- Made in place, an operation leaves the table that it answers with, and is refused for the same
cause. -/
theorem runOn_change (op : Operation) (t : Table) : op.change.runOn t = answer (op.run t) := by
  cases op with
  | setStyle | setGlyphs => exact (runOn_chooseGlyphs ..).trans (answer_settle ..).symm
  | setAlignments | setHeaderAlignments | setVerticalAlignments | setTypes | setWidths
  | setHeader | addRow => exact (runOn_put ..).trans (answer_settle ..).symm
  | setPrecision | setPadding | setMaxWidth | setDecorations | reset => rfl
  | addRows rows => exact runOn_addRows rows t
  | addRowsWithHeader rows =>
    cases rows with
    | nil => rfl
    | cons header rows =>
      -- the header is put in first, and the rows only if it fits
      have hheader : (Change.setHeader header).runOn t = t.atOnce (t.setHeader header) :=
        runOn_put ..
      rw [Operation.change, runOn_bind, hheader, Operation.run, addRowsWithHeader]
      cases t.setHeader header with
      | ok headed => exact runOn_addRows rows headed
      | error cause => rfl

/-- Changed in place, the table is the one that the operations return. -/
theorem changedBy_eq_after (t : Table) (ops : List Operation) : t.changedBy ops = t.after ops := by
  have hstep (t : Table) (op : Operation) : (op.change.runOn t).2 = (op.run t).1 := by
    rw [runOn_change]
    obtain ⟨changed, _ | cause⟩ := op.run t
    · rfl
    · rfl
  simp only [changedBy, hstep, after]

/-! ## Refusals -/

/-- The steps that the operation consists of: the header and each row are put in one by one. -/
def Operation.steps : Operation → List Operation
  | addRows rows => rows.map addRow
  | addRowsWithHeader [] => []
  | addRowsWithHeader (header :: rows) => setHeader header :: rows.map addRow
  | op => [op]

/-- The operations one after the other, up to the first one that is refused. -/
def changeAll (ops : List Operation) : Change :=
  forM ops Operation.change

/-- A refusal is explained by a number of columns that is not that of the table, or by glyphs that
are not usable. -/
def Explains (t : Table) (cause : TableError) : Prop :=
  (∃ expected found, cause = .columnCountMismatch expected found ∧
    t.columnCount = some expected ∧ expected ≠ found) ∨ ∃ fault, cause = .invalidStyle fault

/-- What is put in is refused for its number of columns, before anything is written. -/
theorem runOn_put_eq_error {found : Nat} {write : Table → Table}
    (h : (put found write).runOn t = (.error cause, t₁)) : t₁ = t ∧ t.Explains cause := by
  rw [runOn_put, fitColumns] at h
  cases hcount : t.columnCount with
  | none =>
    rw [hcount] at h
    cases h
  | some expected =>
    simp only [hcount] at h
    by_cases hfound : expected = found
    · rw [if_pos hfound] at h
      cases h
    · rw [if_neg hfound] at h
      cases h
      exact ⟨rfl, .inl ⟨expected, found, rfl, hcount, hfound⟩⟩

/-- Glyphs that cannot be read are a fault of the style. -/
theorem invalidStyle_of_ofText {glyphs : Text} (h : Glyphs.ofText glyphs = .error cause) :
    ∃ fault, cause = .invalidStyle fault := by
  unfold Glyphs.ofText at h
  split at h
  · cases h
  · cases h
  · cases h
    exact ⟨_, rfl⟩

/-- So is a name that stands for no glyphs. -/
theorem invalidStyle_of_named {name : Text} (h : Glyphs.named name = .error cause) :
    ∃ fault, cause = .invalidStyle fault := by
  unfold Glyphs.named at h
  split at h
  · exact invalidStyle_of_ofText h
  · cases h
    exact ⟨_, rfl⟩

/-- Glyphs are refused before anything is written. -/
theorem runOn_chooseGlyphs_eq_error {glyphs : Except TableError Glyphs}
    (hglyphs : ∀ cause, glyphs = .error cause → ∃ fault, cause = .invalidStyle fault)
    (h : (chooseGlyphs glyphs).runOn t = (.error cause, t₁)) : t₁ = t ∧ t.Explains cause := by
  cases glyphs with
  | ok glyphs => cases h
  | error fault =>
    cases h
    exact ⟨rfl, .inr (hglyphs _ rfl)⟩

/-- An operation of one step that is refused leaves the table as it is. -/
theorem refused_step {op : Operation} (hop : op.steps = [op])
    (h : op.change.runOn t = (.error cause, t₁)) : t₁ = t ∧ t.Explains cause := by
  cases op with
  | setStyle => exact runOn_chooseGlyphs_eq_error (fun _ => invalidStyle_of_named) h
  | setGlyphs => exact runOn_chooseGlyphs_eq_error (fun _ => invalidStyle_of_ofText) h
  | setAlignments | setHeaderAlignments | setVerticalAlignments | setTypes | setWidths
  | setHeader | addRow => exact runOn_put_eq_error h
  | setPrecision | setPadding | setMaxWidth | setDecorations | reset => cases h
  | addRows rows =>
    -- rows are put in by other operations
    cases rows with
    | nil => cases hop
    | cons row rows => cases hop
  | addRowsWithHeader rows =>
    cases rows with
    | nil => cases hop
    | cons header rows => cases hop

/-- Each step of an operation is a step. -/
theorem steps_of_mem_steps {op step : Operation} (h : step ∈ op.steps) : step.steps = [step] := by
  -- only rows are put in step by step, and a row is one step
  cases op with
  | addRows rows =>
    obtain ⟨row, -, rfl⟩ := List.mem_map.1 h
    rfl
  | addRowsWithHeader rows =>
    cases rows with
    | nil => cases h
    | cons header rows =>
      rcases List.mem_cons.1 h with rfl | h
      · rfl
      · obtain ⟨row, -, rfl⟩ := List.mem_map.1 h
        rfl
  | _ =>
    obtain rfl := List.mem_singleton.1 h
    rfl

/-- Made in place, an operation is its steps in turn. -/
theorem runOn_changeAll_steps (op : Operation) (t : Table) :
    (changeAll op.steps).runOn t = op.change.runOn t := by
  have hrows (rows : List (List Text)) :
      changeAll (rows.map Operation.addRow) = forM rows Change.addRow := by
    rw [changeAll, List.forM_map]
    rfl
  -- an operation that is one step is made as such
  have hone (op : Operation) : (changeAll [op]).runOn t = op.change.runOn t := by
    rw [changeAll, List.forM_cons, runOn_bind]
    obtain ⟨cause | -, t⟩ := op.change.runOn t
    · rfl
    · rfl
  cases op with
  | addRows rows => rw [Operation.steps, hrows, Operation.change]
  | addRowsWithHeader rows =>
    cases rows with
    | nil => rfl
    | cons header rows =>
      rw [Operation.steps, Operation.change, ← hrows]
      rfl
  | _ => exact hone _

/-- Operations in turn are refused at one of them, which finds what those before it have made. -/
theorem exists_refused_step {ops : List Operation}
    (h : (changeAll ops).runOn t = (.error cause, t₁)) :
    ∃ before step behind t₂, ops = before ++ step :: behind ∧
      (changeAll before).runOn t = (.ok (), t₂) ∧ step.change.runOn t₂ = (.error cause, t₁) := by
  induction ops generalizing t with
  | nil => cases h
  | cons op ops ih =>
    rw [changeAll, List.forM_cons, runOn_bind] at h
    cases hop : op.change.runOn t with
    | mk result changed =>
      rw [hop] at h
      -- the first step is refused, or one of those behind it
      cases result with
      | error first =>
        cases h
        exact ⟨[], op, ops, t, rfl, rfl, hop⟩
      | ok =>
        obtain ⟨before, step, behind, t₂, rfl, hbefore, hstep⟩ := ih h
        refine ⟨op :: before, step, behind, t₂, rfl, ?_, hstep⟩
        rw [changeAll, List.forM_cons, runOn_bind, hop]
        exact hbefore

/-- Made in place, operations leave the table that they answer with.  After any operations, refused
ones among them, the rows have as many cells as the table has columns, and so has the header, unless
it is empty.  An operation that is then refused leaves the table as it is if it is a single step.
Otherwise the steps before the first refused one are made, and nothing else. -/
theorem operations_are_atomic (measure : Measure) (ops : List Operation) :
    let t := changedBy (Table.empty measure) ops
    (t = (Table.empty measure).after ops ∧
        ∀ op : Operation, op.change.runOn t = answer (op.run t)) ∧
      ((t.header = [] ∨ t.columnCount = some t.header.length) ∧
        ∀ row ∈ t.rows, t.columnCount = some row.length) ∧
      ∀ (op : Operation) (cause : TableError) (t₁ : Table),
        op.change.runOn t = (.error cause, t₁) →
          t₁.Explains cause ∧ (op.steps = [op] → t₁ = t) ∧
            ∃ before step behind, op.steps = before ++ step :: behind ∧
              (changeAll before).runOn t = (.ok (), t₁) ∧
              step.change.runOn t₁ = (.error cause, t₁) := by
  intro t
  have hafter : t = (Table.empty measure).after ops := changedBy_eq_after ..
  have hformed : t.Formed measure := by
    rw [hafter]
    exact (Formed.empty measure).after ops
  refine ⟨⟨hafter, fun op => runOn_change op t⟩, ⟨hformed.header, hformed.rows⟩,
    fun op cause t₁ h => ?_⟩
  rw [← runOn_changeAll_steps] at h
  obtain ⟨before, step, behind, t₂, hsteps, hbefore, hstep⟩ := exists_refused_step h
  -- the refused step leaves what it finds
  have hmem : step ∈ op.steps := by simp [hsteps]
  obtain ⟨rfl, hexplains⟩ := refused_step (steps_of_mem_steps hmem) hstep
  refine ⟨hexplains, fun hone => ?_, before, step, behind, hsteps, hbefore, hstep⟩
  rw [runOn_changeAll_steps] at h
  exact (refused_step hone h).1

/-- Of three rows behind a reset, the second one has a cell too many: the first one is added. -/
theorem operations_are_atomic_rows :
    let ops : List Operation := [.setHeader [['h'], ['i']], .reset, .setHeader [['a']]]
    let op : Operation := .addRows [[['d']], [['e'], ['f']], [['g']]]
    let t := changedBy (Table.empty charWidth) ops
    let t₁ := { t with rows := [[['d']]] }
    op.change.runOn t = (.error (.columnCountMismatch 1 2), t₁) ∧
      ∃ before step behind, op.steps = before ++ step :: behind ∧
        (changeAll before).runOn t = (.ok (), t₁) ∧
        step.change.runOn t₁ = (.error (.columnCountMismatch 1 2), t₁) := by
  intro ops op t t₁
  have hrun : op.change.runOn t = (.error (.columnCountMismatch 1 2), t₁) := rfl
  obtain ⟨-, -, hrefused⟩ := operations_are_atomic charWidth ops
  obtain ⟨-, -, hsteps⟩ := hrefused op _ t₁ hrun
  exact ⟨hrun, hsteps⟩

end Table

end Gemtext
