import Gemtext.Number.Decimal

/-!
# Settings as they are found

A setting is found as a scalar, as a list, or as a group of settings with names.  Scalars and lists
come with the file that they stand in.  What the key of a setting leads to is told by its steps.
-/

namespace Gemtext

/-- A setting that holds no others. -/
inductive Scalar where
  | boolean (b : Bool)
  | integer (i : Int)
  | float (n : Numeral)
  | text (s : Text)
  deriving DecidableEq, Repr

/-- A setting, with the file that it comes from. -/
inductive Setting where
  | empty
  | scalar (origin : Option Text) (value : Scalar)
  | list (origin : Option Text) (items : List Setting)
  | group (entries : List (Text × Setting))
  deriving Repr

/-- A setting that comes from no file. -/
def Scalar.toSetting (value : Scalar) : Setting :=
  .scalar none value

/-- The settings in a group; anything else holds none. -/
def Setting.entries : Setting → List (Text × Setting)
  | group entries => entries
  | _ => []

/-- A step of a key. -/
inductive KeyStep where
  | name (name : Text)
  /-- A place in a list; a negative one counts from the end. -/
  | place (index : Int)
  deriving DecidableEq, Repr

end Gemtext
