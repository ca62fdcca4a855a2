import Gemtext.Text.Basic

/-!
# What can go wrong with a table

The causes of failure and the wording of each.
-/

namespace Gemtext

/-- Why a set of glyphs cannot be used. -/
inductive StyleFault where
  /-- No style has this name. -/
  | unknownStyle (name : Text)
  /-- A style has four or fifteen glyphs, not this many. -/
  | glyphCount (found : Nat)
  deriving DecidableEq, Repr

/-- Why a table operation fails. -/
inductive TableError where
  /-- A row, a header or a setting per column disagrees with the number of columns. -/
  | columnCountMismatch (expected found : Nat)
  /-- The glyphs are not usable. -/
  | invalidStyle (fault : StyleFault)
  /-- The limit leaves less than one place per column. -/
  | maxWidthTooSmall (maxWidth required : Nat)
  deriving DecidableEq, Repr

/-- The fault in words. -/
def StyleFault.message : StyleFault → Text
  | unknownStyle name => "unknown style '".toList ++ name ++ ['\'']
  | glyphCount found => "expected 4 or 15 glyphs, got ".toList ++ Text.ofNat found

/-- The failure in words. -/
def TableError.message : TableError → Text
  | columnCountMismatch expected found =>
    "row should contain ".toList ++ Text.ofNat expected ++ " cells, not ".toList ++
      Text.ofNat found
  | invalidStyle fault => "invalid table style: ".toList ++ fault.message
  | maxWidthTooSmall maxWidth required =>
    "max width ".toList ++ Text.ofNat maxWidth ++
      " is too low to render the table (needs at least ".toList ++ Text.ofNat required ++ [')']

end Gemtext
