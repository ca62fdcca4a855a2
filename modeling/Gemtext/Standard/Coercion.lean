import Gemtext.Config
import Gemtext.Standard.SettingsError

/-!
# Reading single settings

A setting is read as what is needed where that makes sense: words and numbers as truth values, texts
and truth values as numbers, and all scalars as texts.  Nothing else is converted.
-/

namespace Gemtext

/-- Where a setting was found. -/
structure FoundSetting where
  key : Text
  value : Setting

namespace FoundSetting

/-- The file that the setting comes from. -/
def origin (f : FoundSetting) : Option Text :=
  match f.value with
  | .scalar origin _ => origin
  | .list origin _ => origin
  | _ => none

/-- The failure that the setting is not what is expected; `found` stands for it. -/
def wrongType {α : Type} (f : FoundSetting) (found : Setting) (expected : SettingType) :
    Except SettingsError α :=
  .error (.wrongType found expected f.key f.origin)

/-- Whether the number is zero. -/
def isZero (n : Numeral) : Bool :=
  match n with
  | .finite d =>
    match Binary64.ofDecimal? d with
    | some x => x.isZero
    | none => false
  | _ => false

/-- The truth value of a word in small letters. -/
def booleanOfWord? (word : Text) : Option Bool :=
  if (["1", "true", "on", "yes"].map String.toList).contains word then some true
  else if (["0", "false", "off", "no"].map String.toList).contains word then some false
  else none

/-- The setting as a truth value: a number is true unless it is zero. -/
def toBool (f : FoundSetting) : Except SettingsError Bool :=
  match f.value with
  | .scalar origin value =>
    match value with
    | .boolean b => .ok b
    | .integer i => .ok (i != 0)
    | .float n => .ok (!isZero n)
    | .text s =>
      match booleanOfWord? s.lower with
      | some b => .ok b
      | none => f.wrongType (.scalar origin (.text s.lower)) .boolean
  | other => f.wrongType other .boolean

/-- The count nearest to a number, a half going up; what lies outside of the range of counts becomes
its nearest end. -/
def countOfNumeral (n : Numeral) : Nat :=
  match n with
  | .nan => 0
  | .infinity negative => if negative then 0 else maxCount
  | .finite d =>
    if d.negative then 0
    else
      match Binary64.ofDecimal? d with
      | some x => min x.roundedAwayMagnitude maxCount
      | none => maxCount

/-- The setting as a count. -/
def toCount (f : FoundSetting) : Except SettingsError Nat :=
  match f.value with
  | .scalar _ value =>
    match value with
    | .boolean b => .ok (if b then 1 else 0)
    | .integer i => if 0 ≤ i then .ok i.toNat else f.wrongType f.value .count
    | .float n => .ok (countOfNumeral n)
    | .text s =>
      let word := s.lower
      if (["true", "on", "yes"].map String.toList).contains word then .ok 1
      else if (["false", "off", "no"].map String.toList).contains word then .ok 0
      else
        match countOfText? s with
        | some n => .ok n
        | none => f.wrongType f.value .integer
  | other => f.wrongType other .integer

/-- The setting as a text. -/
def toText (f : FoundSetting) : Except SettingsError Text :=
  match f.value with
  | .scalar _ value =>
    match value with
    | .boolean b => .ok (if b then "true" else "false").toList
    | .integer i => .ok (integerText i)
    | .float n => .ok (floatText n)
    | .text s => .ok s
  | other => f.wrongType other .text

end FoundSetting

end Gemtext
