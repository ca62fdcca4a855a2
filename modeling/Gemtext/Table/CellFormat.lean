import Gemtext.Number.Binary64

/-!
# Cells that hold numbers

A column can have a type, and a cell that reads as a finite number is then written anew by the
rule of that type.  All other cells are kept as they are.
-/

namespace Gemtext

/-- How the cells of a column are written. -/
inductive CellType where
  /-- Large numbers in scientific form, integers without a point, others with fixed places. -/
  | auto
  /-- As they are. -/
  | text
  /-- With fixed places. -/
  | float
  /-- In scientific form. -/
  | exponential
  /-- Rounded to an integer. -/
  | integer
  deriving DecidableEq, Repr

namespace Binary64

/-- The number rounded to an integer, ties to even; a zero has no sign. -/
def integerText (x : Binary64) : Text :=
  let n := x.roundedMagnitude
  if n = 0 then ['0'] else x.signText ++ Text.ofNat n

/-- Whether the magnitude is above one hundred million. -/
def isLarge (x : Binary64) : Bool :=
  100000000 * x.den < x.num

end Binary64

/-- The finite number that the text denotes, blanks around it aside. -/
def finiteNumber? (s : Text) : Option Binary64 :=
  match Numeral.read? s.trim with
  | some (.finite d) => Binary64.ofDecimal? d
  | _ => none

/-- A cell written by the type of its column, with `places` digits after the point. -/
def formatCell (type : CellType) (places : Nat) (cell : Text) : Text :=
  match finiteNumber? cell with
  | none => cell
  | some x =>
    match type with
    | .text => cell
    | .integer => x.integerText
    | .float => x.fixed places
    | .exponential => x.scientific places
    | .auto =>
      if x.isLarge then x.scientific places
      else if x.isIntegral then x.integerText
      else x.fixed places

end Gemtext
