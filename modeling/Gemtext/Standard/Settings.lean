import Gemtext.Path
import Gemtext.Settings.Package
import Gemtext.Standard.KeyPath
import Gemtext.Standard.Merging
import Gemtext.Standard.Reading
import Gemtext.Text.Utf8
import Gemtext.Toml.Document

/-!
# Layers of settings

`SettingsPackage.standard` reads settings from TOML.  A file is put on top of the layers below it
entry by entry, each where its key leads to.  A key that is malformed is noticed first, then the
first file that is missing or malformed, and last a setting that cannot be read.
-/

namespace Gemtext

namespace Setting

mutual

/-- The setting that a TOML value is. -/
def ofToml (origin : Option Text) : Toml → Setting
  | .text s => .scalar origin (.text s)
  | .integer i => .scalar origin (.integer i)
  | .float n => .scalar origin (.float n)
  | .boolean b => .scalar origin (.boolean b)
  | .array items => .list origin (ofItems origin items)
  | .table _ entries => .group (ofEntries origin entries)
  | .tables items => .list origin (ofItems origin items)

/-- The settings that TOML values are. -/
def ofItems (origin : Option Text) : List Toml → List Setting
  | [] => []
  | item :: items => ofToml origin item :: ofItems origin items

/-- The settings that the entries of a TOML table are. -/
def ofEntries (origin : Option Text) : List (Text × Toml) → List (Text × Setting)
  | [] => []
  | (key, value) :: entries => (key, ofToml origin value) :: ofEntries origin entries

end

/-- The setting with the names of a group in small letters, which is how they are compared. -/
def lowerNames : Setting → Setting
  | group entries => .group (entries.map fun (name, value) => (Text.lower name, value))
  | s => s

end Setting

/-- The step with its name in small letters. -/
def KeyStep.lower : KeyStep → KeyStep
  | .name n => .name n.lower
  | .place index => .place index

namespace SettingsFile

/-- The steps of a key at the top of a file.  A key that is malformed names a setting as it is. -/
def stepsOfKey (key : Text) : List KeyStep :=
  (KeyStep.ofText? key).getD [.name key]

/-- What the file sets, in order, and where.  A missing file that may be missing sets nothing. -/
def run (file : SettingsFile) : Except SettingsError (List (List KeyStep × Setting)) :=
  match file.text with
  | none => if file.optional then .ok [] else .error (.missingFile file.name)
  | some text =>
    match Toml.parse? text with
    | none => .error (.malformedFile file.name)
    | some entries =>
      .ok ((Setting.ofEntries file.name entries).map fun (key, value) => (stepsOfKey key, value))

end SettingsFile

namespace Settings

/-- The layers with a setting on top, where its key leads to. -/
def addSetting (layers : Setting) (entry : List KeyStep × Setting) : Setting :=
  Setting.setAt entry.2 entry.1 layers

/-- Put a file on top of the layers below it. -/
def addFile (layers : Setting) (file : SettingsFile) : Except SettingsError Setting :=
  file.run.map fun run => run.foldl addSetting layers

/-- A single setting, where its key leads to. -/
def single (entry : Text × Scalar) : Except SettingsError (List KeyStep × Setting) :=
  match KeyStep.ofText? entry.1 with
  | some steps => .ok (steps, entry.2.toSetting)
  | none => .error (.malformedKey entry.1)

/-- Files on top of each other, and single settings on top of them. -/
def layers (files : List SettingsFile) (overrides : List (Text × Scalar)) :
    Except SettingsError Setting := do
  let top ← overrides.mapM single
  let bottom ← files.foldlM addFile (.group [])
  return top.foldl addSetting bottom

end Settings

/-- Settings in TOML, which are found with or without the extension of their files. -/
def SettingsPackage.standard : SettingsPackage SettingsError where
  message := SettingsError.message
  candidates name :=
    if (Path.fileName? name).isSome then
      [name, Text.dropEndWhile (· == '/') name ++ ".toml".toList]
    else [name]
  nameOf := Path.normalized
  decode bytes :=
    Utf8.decodeLossy (if [0xEF, 0xBB, 0xBF].isPrefixOf bytes then bytes.drop 3 else bytes)
  entries? file :=
    file.run.toOption.map fun run =>
      run.map fun (steps, value) => (steps.map KeyStep.lower, value.lowerNames)
  build := Settings.layers
  toBool key found := FoundSetting.toBool ⟨key, found⟩
  toCount key found := FoundSetting.toCount ⟨key, found⟩
  toText key found := FoundSetting.toText ⟨key, found⟩
  read := Settings.ofSetting

end Gemtext
