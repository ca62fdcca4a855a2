import Gemtext.Settings.Package

/-!
# Settings in layers

`SettingKey.givenBy` says which of the keys that are read an entry of a file gives a value, and
`SettingsPackage.value?` what a file sets a key to.  A package is lawful if it does with such layers
what it is documented to do (`SettingsPackage.Lawful`): files are merged key by key, what is put on
top wins, and values are read one by one.
-/

namespace Gemtext

/-- The entries of a group are those that it is made of. -/
@[simp]
theorem Setting.entries_group (entries : List (Text × Setting)) :
    (Setting.group entries).entries = entries := rfl

/-- What a setting holds for a key: in the group of the key, what has its name. -/
def Setting.value? (k : SettingKey) (s : Setting) : Option Setting :=
  (s.entries.lookup k.group.name).bind fun group => group.entries.lookup k.name

/-! ## Entries of files -/

/-- The last of the entries with the given name. -/
def Setting.lastNamed? (name : Text) (entries : List (Text × Setting)) : Option Setting :=
  entries.reverse.findSome? fun (n, value) => if n = name then some value else none

/-- The value that the key is given when what the steps lead to is set. -/
def SettingKey.givenBy (k : SettingKey) (steps : List KeyStep) (value : Setting) :
    Option Setting :=
  match steps with
  | [.name group] =>
    if group = k.group.name then Setting.lastNamed? k.name value.entries else none
  | [.name group, .name name] => if group = k.group.name ∧ name = k.name then some value else none
  | _ => none

/-- Whether the setting is a group, which is merged with the group in its place. -/
def Setting.isGroup : Setting → Bool
  | group _ => true
  | _ => false

/-- Whether the setting is a group without groups in it. -/
def Setting.isFlatGroup : Setting → Bool
  | group entries => entries.all fun (_, value) => !value.isGroup
  | _ => false

/-- Whether settings are read from the group of the given name. -/
def SettingGroup.isName (name : Text) : Bool :=
  name = SettingGroup.render.name || name = SettingGroup.output.name

/-- Whether a group that is read stays one without groups in it when what the steps lead to is
set. -/
def Setting.isTabular (steps : List KeyStep) (value : Setting) : Bool :=
  match steps with
  | .name parent :: further =>
    !SettingGroup.isName parent ||
      match further with
      | [] => value.isFlatGroup
      | [.name _] => !value.isGroup
      | _ => false
  | _ => false

/-! ## Layers -/

namespace SettingsPackage

variable {ε : Type} (P : SettingsPackage ε)

/-- What the file sets the key to, if it does so. -/
def value? (file : SettingsFile) (k : SettingKey) : Option Setting :=
  ((P.entries? file).getD []).reverse.findSome? fun (steps, value) => k.givenBy steps value

/-- Whether the file can be read and its groups are tables without tables in them.  What else is in
the file does not matter. -/
def isTabular (file : SettingsFile) : Bool :=
  (P.entries? file).any fun entries =>
    entries.all fun (steps, value) => Setting.isTabular steps value

/-- What the topmost layer that sets the key sets it to.  Single settings stand above the files, of
which each one stands above those before it, and the built-in settings are at the bottom. -/
def topmost (single? : SettingKey → Option Scalar) (files : List SettingsFile) (k : SettingKey) :
    Setting :=
  (((single? k).map Scalar.toSetting).or (files.reverse.findSome? (P.value? · k))).getD
    (Settings.default.value k).toSetting

/-- What a package is documented to do with layers whose groups are tables without tables in
them. -/
structure Lawful : Prop where
  /-- Without layers no key has a value. -/
  build_nil : ∃ s, P.build [] [] = .ok s ∧ ∀ k, s.value? k = none
  /-- A file that is put on top of others is merged with them key by key, and wins. -/
  build_file : ∀ {files : List SettingsFile} {file : SettingsFile} {below : Setting},
    P.isTabular file → P.build files [] = .ok below →
    ∃ above, P.build (files ++ [file]) [] = .ok above ∧
      ∀ k, above.value? k = (P.value? file k).or (below.value? k)
  /-- A single setting sets its key, whatever is below, and no other. -/
  build_override : ∀ {files : List SettingsFile} {overrides : List (Text × Scalar)}
    {below : Setting} (k : SettingKey) (value : Scalar), P.build files overrides = .ok below →
    ∃ above, P.build files (overrides ++ [(k.path, value)]) = .ok above ∧
      ∀ l, above.value? l = if l = k then some value.toSetting else below.value? l
  /-- The settings are read one by one, each as what it has to be. -/
  read_eq_ok_iff : ∀ {s : Setting} {found : SettingKey → Setting},
    (∀ k, s.value? k = some (found k)) → ∀ settings : Settings,
      P.read s = .ok settings ↔ ∀ k, P.readKey k (found k) = .ok (settings.value k)
  /-- If the settings cannot be read, then because one of them cannot be read. -/
  exists_of_read_eq_error : ∀ {s : Setting} {found : SettingKey → Setting} {cause : ε},
    (∀ k, s.value? k = some (found k)) → P.read s = .error cause →
      ∃ k, P.readKey k (found k) = .error cause
  /-- A truth value is read as it is. -/
  toBool_boolean : ∀ (key : Text) (b : Bool),
    P.toBool key (Scalar.boolean b).toSetting = .ok b
  /-- An integer that is not negative, and not too large for any machine, is read as it is. -/
  toCount_integer : ∀ (key : Text) (n : UInt32),
    P.toCount key (Scalar.integer n.toNat).toSetting = .ok n.toNat
  /-- A text is read as it is. -/
  toText_text : ∀ (key s : Text), P.toText key (Scalar.text s).toSetting = .ok s
  /-- The built-in settings can be read. -/
  isTabular_builtIn : P.isTabular .builtIn
  /-- Every key has the value that is written in the built-in settings. -/
  value?_builtIn : ∀ k, P.value? .builtIn k = some (Settings.default.value k).toSetting

end SettingsPackage

end Gemtext
