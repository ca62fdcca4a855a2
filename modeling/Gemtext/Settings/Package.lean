import Gemtext.Settings.Defaults

/-!
# Loading settings

Settings are loaded from files, one on top of the other, and from single settings on top of them.
Finding files, reading them, merging them and reading values is left to a `SettingsPackage`.  What
is put on top of what, and which value is read as what, is told here (`Settings.load`,
`SettingsPackage.readKey`).
-/

namespace Gemtext

/-- A file with settings. -/
structure SettingsFile where
  /-- The name of the file; the built-in settings have none. -/
  name : Option Text
  /-- The text of the file, if there is such a file. -/
  text : Option Text
  /-- Whether the file may be missing. -/
  optional : Bool
  deriving DecidableEq, Repr

/-- The file with the built-in settings. -/
def SettingsFile.builtIn : SettingsFile :=
  ⟨none, some Settings.defaultText, false⟩

/-- What loading settings takes from the library that layers them.  It fails with an `ε`. -/
structure SettingsPackage (ε : Type) where
  /-- The failure in words. -/
  message : ε → Text
  /-- The paths at which a file of the given name is looked for, in order. -/
  candidates : Text → List Text
  /-- What a file that was found at a path is called. -/
  nameOf : Text → Text
  /-- The text of a file. -/
  decode : List UInt8 → Text
  /-- What a file holds, in order: where each of its entries leads to, and the setting that it is.
  A file that cannot be read has none of this; a missing one that may be missing holds nothing. -/
  entries? : SettingsFile → Option (List (List KeyStep × Setting))
  /-- Files on top of each other, the last one on top, and above them single settings by key. -/
  build : List SettingsFile → List (Text × Scalar) → Except ε Setting
  /-- A setting that was found under a key, read as a truth value. -/
  toBool : Text → Setting → Except ε Bool
  /-- A setting that was found under a key, read as a count. -/
  toCount : Text → Setting → Except ε Nat
  /-- A setting that was found under a key, read as a text. -/
  toText : Text → Setting → Except ε Text
  /-- All settings, each read from the setting of its name in its group. -/
  read : Setting → Except ε Settings

namespace SettingsPackage

variable {ε : Type}

/-- The value of a key, read as what the key needs from the setting that was found. -/
def readKey (P : SettingsPackage ε) (k : SettingKey) (found : Setting) : Except ε Scalar :=
  match k with
  | .asciiTable | .plain | .stripHtml | .mdLinks | .checklist | .frontmatter | .write =>
    (P.toBool k.path found).map .boolean
  | .maxTableWidth => (P.toCount k.path found).map fun (count : Nat) => .integer count
  | .codeTag | .imgTag | .indent | .links | .baseUrl | .tableTag | .dir =>
    (P.toText k.path found).map .text

end SettingsPackage

/-- The settings that result from files and from single settings on top of them.  The built-in ones
are at the bottom. -/
def Settings.load {ε : Type} (P : SettingsPackage ε) (files : List SettingsFile)
    (overrides : List (Text × Scalar)) : Except ε Settings := do
  P.read (← P.build (.builtIn :: files) overrides)

end Gemtext
