import Gemtext.Table.Error

/-!
# What can go wrong with a conversion
-/

namespace Gemtext

/-- Why a document cannot be converted. -/
inductive ConvertError where
  /-- A table cannot be drawn. -/
  | table (cause : TableError)
  /-- The indent is neither a number nor the word for a tab. -/
  | invalidIndent (spec : Text)
  deriving DecidableEq, Repr

/-- The failure in words. -/
def ConvertError.message : ConvertError → Text
  | table cause => "table error: ".toList ++ cause.message
  | invalidIndent spec =>
    "invalid indent value '".toList ++ spec ++ "': must be an integer, or 'tab'".toList

end Gemtext
