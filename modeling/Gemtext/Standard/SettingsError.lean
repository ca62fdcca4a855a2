import Gemtext.Number.Binary64
import Gemtext.Settings.Key
import Gemtext.Text.Quoted

/-!
# What can go wrong with settings
-/

namespace Gemtext

/-- What a setting is expected to be. -/
inductive SettingType where
  | boolean
  | integer
  /-- An integer that is not negative. -/
  | count
  | text
  deriving DecidableEq, Repr

/-- Why settings cannot be loaded. -/
inductive SettingsError where
  /-- A setting is not what is expected. -/
  | wrongType (found : Setting) (expected : SettingType) (key : Text) (origin : Option Text)
  /-- A setting is no group. -/
  | noGroup (found : Setting) (group : SettingGroup)
  /-- A list in place of a group has too few items. -/
  | tooShort (length : Nat) (group : SettingGroup)
  /-- A group lacks a setting. -/
  | missing (name : Text)
  | malformedKey (key : Text)
  | malformedFile (name : Option Text)
  | missingFile (name : Option Text)

/-- The expected type in words. -/
def SettingType.description : SettingType → Text
  | boolean => "a boolean".toList
  | integer => "an integer".toList
  | count => "an unsigned 64 bit or less integer".toList
  | text => "a string".toList

/-- The group in words. -/
def SettingGroup.description : SettingGroup → Text
  | render => "struct RenderSettings".toList
  | output => "struct OutputSettings".toList

/-- The names of the settings in a group, in order. -/
def SettingGroup.names (g : SettingGroup) : List Text :=
  (SettingKey.all.filter (·.group = g)).map SettingKey.name

/-- The number of settings in the group. -/
def SettingGroup.size (g : SettingGroup) : Nat :=
  g.names.length

/-- The text of an integer. -/
def integerText (i : Int) : Text :=
  if i < 0 then '-' :: Text.ofNat i.natAbs else Text.ofNat i.natAbs

/-- The text of a floating point number, with as few digits as tell it apart from all others. -/
def floatText (n : Numeral) : Text :=
  let infinite (negative : Bool) : Text := if negative then "-inf".toList else "inf".toList
  match n with
  | .nan => "NaN".toList
  | .infinity negative => infinite negative
  | .finite d =>
    match Binary64.ofDecimal? d with
    | some x => x.shortest
    | none => infinite d.negative

/-- The text between backticks. -/
def backticked (s : Text) : Text :=
  '\x60' :: s ++ ['\x60']

/-- What stands in place of a setting of another type, in words. -/
def Setting.description : Setting → Text
  | empty => "unit value".toList
  | list .. => "sequence".toList
  | group _ => "map".toList
  | scalar _ value =>
    match value with
    | .boolean b => "boolean ".toList ++ backticked (if b then "true" else "false").toList
    | .integer i => "64-bit integer ".toList ++ backticked (integerText i)
    | .float n => "floating point ".toList ++ backticked (floatText n)
    | .text s => "string ".toList ++ s.quoted

/-- What stands in place of a group, in words. -/
def Setting.descriptionInGroup (s : Setting) : Text :=
  match s with
  | scalar _ (.integer i) => "integer ".toList ++ backticked (integerText i)
  | scalar _ (.float n) =>
    let digits := floatText n
    let isWhole := digits.all fun c => isDecimalDigit c || c == '-'
    "floating point ".toList ++ backticked (if isWhole then digits ++ ['.', '0'] else digits)
  | _ => s.description

/-- The failure in words. -/
def SettingsError.message : SettingsError → Text
  | wrongType found expected key origin =>
    let place :=
      match origin with
      | some file => " in ".toList ++ file
      | none => []
    "invalid type: ".toList ++ found.description ++ ", expected ".toList ++
      expected.description ++ " for key ".toList ++ backticked key ++ place
  | noGroup found group =>
    "invalid type: ".toList ++ found.descriptionInGroup ++ ", expected ".toList ++
      group.description
  | tooShort length group =>
    "invalid length ".toList ++ Text.ofNat length ++ ", expected ".toList ++
      group.description ++ " with ".toList ++ Text.ofNat group.size ++ " elements".toList
  | missing name => "missing field ".toList ++ backticked name
  | malformedKey key => "malformed key ".toList ++ backticked key
  | malformedFile name => "malformed settings in ".toList ++ name.getD []
  | missingFile name =>
    "configuration file ".toList ++ '"' :: name.getD [] ++ "\" not found".toList

end Gemtext
