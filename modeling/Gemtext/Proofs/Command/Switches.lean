import Gemtext.Command.Arguments
import Gemtext.Proofs.List
import Gemtext.Proofs.Settings.Precedence

/-!
# What switches set

Each switch that sets something gives one key a value (`GivenSwitch.sets?`).  `Arguments.value?`
says what arguments set each key to, whatever the order in which they do so (`lastGiven?_given`),
and one more switch changes this for its own key only (`value?_give`).
-/

namespace Gemtext

namespace Command

/-- A switch that is given, with its value if it takes one. -/
inductive GivenSwitch where
  | flag (f : Flag)
  | text (name : TextSwitch) (value : Text)
  | maxTableWidth (width : UInt32)
  deriving DecidableEq, Repr

/-- The keys that the switches with a text set, in the order in which they are looked at. -/
def textSettings : List (TextSwitch × SettingKey) := [
  (.codeTag, .codeTag), (.imgTag, .imgTag), (.tableTag, .tableTag), (.indent, .indent),
  (.links, .links), (.baseUrl, .baseUrl), (.dir, .dir)]

/-- The keys that the switches without a value set, and to what. -/
def flagSettings : List (Flag × SettingKey × Bool) := [
  (.write, .write, true), (.asciiTable, .asciiTable, true), (.frontmatter, .frontmatter, true),
  (.jekyll, .frontmatter, true), (.plain, .plain, true), (.stripHtml, .stripHtml, true),
  (.mdLinks, .mdLinks, true), (.noChecklist, .checklist, false)]

/-- The key that a switch sets, and what it is set to. -/
def GivenSwitch.sets? : GivenSwitch → Option (SettingKey × Scalar)
  | flag f => (flagSettings.lookup f).map fun (k, b) => (k, .boolean b)
  | text name value => (textSettings.lookup name).map fun k => (k, .text value)
  | maxTableWidth width => some (.maxTableWidth, .integer width.toNat)

/-- A switch sets its key to something that is read as it is. -/
theorem GivenSwitch.readKey_toSetting {ε : Type} {P : SettingsPackage ε} (hP : P.Lawful)
    {g : GivenSwitch} {k : SettingKey} {v : Scalar} (h : g.sets? = some (k, v)) :
    P.readKey k v.toSetting = .ok v := by
  -- the type of the value is that of the key, switch by switch
  cases g with
  | flag f =>
    cases f <;> cases h <;> simp [SettingsPackage.readKey, hP.toBool_boolean, Except.map]
  | text name value =>
    cases name <;> cases h <;> simp [SettingsPackage.readKey, hP.toText_text, Except.map]
  | maxTableWidth width =>
    cases h
    simp [SettingsPackage.readKey, hP.toCount_integer, Except.map]

namespace Arguments

variable {a : Arguments} {g : GivenSwitch} {k : SettingKey} {v : Scalar}

/-! ## What the arguments set -/

/-- The keys that the arguments set, and what they are set to, in order. -/
def given (a : Arguments) : List (SettingKey × Scalar) :=
  (textSettings.filterMap fun (name, k) => (a.text? name).map fun value => (k, .text value)) ++
    (flagSettings.filterMap fun (f, k, b) => if a.flag f then some (k, .boolean b) else none) ++
    (a.maxTableWidth.map fun width =>
      (SettingKey.maxTableWidth, Scalar.integer width.toNat)).toList

/-- What the arguments set the key to, if they do so. -/
def value? (a : Arguments) : SettingKey → Option Scalar
  | .codeTag => (a.text? .codeTag).map .text
  | .imgTag => (a.text? .imgTag).map .text
  | .indent => (a.text? .indent).map .text
  | .asciiTable => if a.flag .asciiTable then some (.boolean true) else none
  | .links => (a.text? .links).map .text
  | .plain => if a.flag .plain then some (.boolean true) else none
  | .stripHtml => if a.flag .stripHtml then some (.boolean true) else none
  | .baseUrl => (a.text? .baseUrl).map .text
  | .mdLinks => if a.flag .mdLinks then some (.boolean true) else none
  | .tableTag => (a.text? .tableTag).map .text
  | .checklist => if a.flag .noChecklist then some (.boolean false) else none
  | .frontmatter =>
    if a.flag .frontmatter ∨ a.flag .jekyll then some (.boolean true) else none
  | .maxTableWidth => a.maxTableWidth.map fun width => .integer width.toNat
  | .write => if a.flag .write then some (.boolean true) else none
  | .dir => (a.text? .dir).map .text

/-- The keys of the switches with a text, written out. -/
theorem filterMap_textKeys {β : Type} (f : TextSwitch → Text → Option β) :
    (textKeys.filterMap fun entry => f entry.1 entry.2.toList) =
      textSettings.filterMap fun entry => f entry.1 entry.2.path := by
  -- the two tables have the same rows, up to how a key is written
  have hkeys : textKeys.map (Prod.map id String.toList) =
      textSettings.map (Prod.map id SettingKey.path) := by decide
  have hmap := congrArg (List.filterMap fun entry => f entry.1 entry.2) hkeys
  rwa [List.filterMap_map, List.filterMap_map] at hmap

/-- The keys of the switches without a value, written out. -/
theorem filterMap_flagKeys {β : Type} (f : Flag → Text → Bool → Option β) :
    (flagKeys.filterMap fun entry => f entry.1 entry.2.1.toList entry.2.2) =
      flagSettings.filterMap fun entry => f entry.1 entry.2.1.path entry.2.2 := by
  have hkeys : flagKeys.map (Prod.map id (Prod.map String.toList id)) =
      flagSettings.map (Prod.map id (Prod.map SettingKey.path id)) := by decide
  have hmap := congrArg (List.filterMap fun entry => f entry.1 entry.2.1 entry.2.2) hkeys
  rwa [List.filterMap_map, List.filterMap_map] at hmap

/-- The keys of the settings are written as the keys of the switches. -/
theorem settings_eq (a : Arguments) : a.settings = a.given.map (Prod.map SettingKey.path id) := by
  -- both lists are made of three parts: texts, flags and the width
  have htexts := filterMap_textKeys fun name key =>
    (a.text? name).map fun value => (key, Scalar.text value)
  have hflags := filterMap_flagKeys fun f key b =>
    if a.flag f then some (key, Scalar.boolean b) else none
  have hsettings : a.settings =
      (textSettings.filterMap fun entry =>
          (a.text? entry.1).map fun value => (entry.2.path, Scalar.text value)) ++
        (flagSettings.filterMap fun entry =>
          if a.flag entry.1 then some (entry.2.1.path, Scalar.boolean entry.2.2) else none) ++
        (a.maxTableWidth.map fun width =>
          (SettingKey.maxTableWidth.path, Scalar.integer width.toNat)).toList := by
    rw [← htexts, ← hflags]
    rfl
  rw [hsettings, given, List.map_append, List.map_append, List.map_filterMap, List.map_filterMap]
  congr 1
  · congr 2
    · funext entry
      cases h : a.text? entry.1 <;> simp [h]
    · funext entry
      cases h : a.flag entry.1 <;> simp [h]
  · cases a.maxTableWidth <;> rfl

/-- What the arguments set a key to is what they give it. -/
theorem value?_eq_some_iff (a : Arguments) (k : SettingKey) (v : Scalar) :
    a.value? k = some v ↔ (k, v) ∈ a.given := by
  cases k
  -- two flags set this key
  case frontmatter =>
    simp [value?, given, textSettings, flagSettings, -Prod.exists]
    exact or_and_right
  all_goals simp [value?, given, textSettings, flagSettings, -Prod.exists]

/-- The last value that is given to a key is the only one: two flags that set the same key set it
to the same value. -/
theorem lastGiven?_given (a : Arguments) : SettingKey.lastGiven? a.given = a.value? := by
  funext k
  refine Option.ext fun v => ?_
  -- it remains that no key is given two different values
  rw [SettingKey.lastGiven?_eq_some_iff, value?_eq_some_iff]
  intro u w hu hw
  rw [← value?_eq_some_iff] at hu hw
  exact Option.some.inj (hu.symm.trans hw)

/-! ## One more switch -/

/-- The arguments with one more switch.  A switch with a value has its new one. -/
def give (a : Arguments) : GivenSwitch → Arguments
  | .flag f => { a with flags := f :: a.flags }
  | .text name value => { a with texts := (name, value) :: a.texts }
  | .maxTableWidth width => { a with maxTableWidth := some width }

/-- A flag that is given is there, and all others are there as before. -/
@[simp]
theorem flag_give_flag (a : Arguments) (f g : Flag) :
    (a.give (.flag f)).flag g = (g == f || a.flag g) :=
  List.contains_cons

/-- The value that is given last stands for the switch. -/
@[simp]
theorem text?_give_text (a : Arguments) (name other : TextSwitch) (value : Text) :
    (a.give (.text name value)).text? other =
      if other = name then some value else a.text? other := by
  simp [give, text?, List.lookup_cons_eq_if]

/-- One more switch sets its key. -/
theorem value?_give_of_sets (h : g.sets? = some (k, v)) : (a.give g).value? k = some v := by
  -- each switch in turn, with the key that it sets
  cases g with
  | flag f => cases f <;> cases h <;> simp [value?]
  | text name value => cases name <;> cases h <;> simp [value?]
  | maxTableWidth width => cases h; rfl

/-- One more switch leaves the keys that it does not set as they are. -/
theorem value?_give_of_ne (h : ∀ v, g.sets? ≠ some (k, v)) : (a.give g).value? k = a.value? k := by
  -- a switch either sets the key, or the key does not depend on it
  cases g with
  | flag f => cases f <;> cases k <;> first | rfl | exact absurd rfl (h _)
  | text name value => cases name <;> cases k <;> first | rfl | exact absurd rfl (h _)
  | maxTableWidth width => cases k <;> first | rfl | exact absurd rfl (h _)

end Arguments

end Command

end Gemtext
