import Gemtext.Table.Basic

/-!
# The widths of the columns

A column is as wide as its widest cell.  When the drawn table would be wider than the limit, the
columns share what the limit leaves after the decorations: `shareOut` hands it out place by
place, going round the columns from the first one, and gives no column more than it needs.
-/

namespace Gemtext

namespace Table

/-- Raise the first numbers to at least the second ones, position by position. -/
def raise : List Nat → List Nat → List Nat
  | a :: as, b :: bs => max a b :: raise as bs
  | as, [] => as
  | [], _ => []

/-- The width that each column needs for its widest cell. -/
def contentWidths (t : Table) : List Nat :=
  (t.header :: t.rows).foldl
    (fun widths row => raise widths (row.map (Text.cellWidth t.measure)))
    (List.replicate (t.columnCount.getD 0) 0)

/-- The places that rules and padding take in a table of `columns` columns. -/
def decorationWidth (t : Table) (columns : Nat) : Nat :=
  (2 * t.padding + 1) * (columns - 1) + if t.decorations.border then 2 * t.padding + 2 else 0

/-- A column that is given its width: what it has and what it needs. -/
structure Share where
  given : Nat
  need : Nat
  deriving DecidableEq, Repr

/-- Give one place to each column in turn that needs more, as long as places are left: the
columns afterwards and the places still left. -/
def dealRound (available : Nat) : List Share → List Share × Nat
  | [] => ([], available)
  | column :: columns =>
    if 0 < available && column.given < column.need then
      let (others, left) := dealRound (available - 1) columns
      ({ column with given := column.given + 1 } :: others, left)
    else
      let (others, left) := dealRound available columns
      (column :: others, left)

/-- Deal at most `rounds` rounds. -/
def dealRounds : Nat → Nat → List Share → List Share
  | 0, _, columns => columns
  | rounds + 1, available, columns =>
    let (columns, left) := dealRound available columns
    dealRounds rounds left columns

/-- Share `available` places among columns with the given needs.  Every round gives a place away
until nothing is left or no column needs more, so `available` rounds are enough. -/
def shareOut (available : Nat) (needs : List Nat) : List Nat :=
  (dealRounds available available (needs.map fun need => ⟨0, need⟩)).map Share.given

/-- The widths that the columns are drawn with. -/
def columnWidths (t : Table) : Except TableError (List Nat) :=
  match t.fixedWidths with
  | some widths => .ok widths
  | none =>
    let needs := t.contentWidths
    let columns := t.columnCount.getD 0
    let decoration := t.decorationWidth columns
    if t.maxWidth = 0 ∨ total needs + decoration ≤ t.maxWidth then .ok needs
    else if t.maxWidth < columns + decoration then
      .error (.maxWidthTooSmall t.maxWidth (columns + decoration))
    else .ok (shareOut (t.maxWidth - decoration) needs)

end Table

end Gemtext
