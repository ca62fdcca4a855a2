import Gemtext.Settings.Basic
import Gemtext.Standard.Coercion

/-!
# Reading settings

`Settings.ofSetting` reads all settings from the groups that hold them, one after the other.
-/

namespace Gemtext

/-- The settings found in a group.  A list holds them in order. -/
def SettingGroup.found (g : SettingGroup) (s : Setting) :
    Except SettingsError (List (Text × FoundSetting)) :=
  match s with
  | .group entries =>
    .ok (entries.map fun (name, value) => (name, ⟨g.name ++ '.' :: name, value⟩))
  | .list _ items =>
    if items.length < g.size then .error (.tooShort items.length g)
    else
      .ok ((g.names.zip items).zipIdx.map fun ((name, value), i) =>
        (name, ⟨g.name ++ '[' :: Text.ofNat i ++ [']'], value⟩))
  | other => .error (.noGroup other g)

/-- The setting of the given key, if it is there, read by `read`. -/
def readOptional {α : Type} (found : List (Text × FoundSetting)) (k : SettingKey)
    (read : FoundSetting → Except SettingsError α) : Except SettingsError (Option α) :=
  match found.lookup k.name with
  | some f => (read f).map some
  | none => .ok none

/-- The value of a setting that must be there. -/
def require {α : Type} (k : SettingKey) (value : Option α) : Except SettingsError α :=
  match value with
  | some a => .ok a
  | none => .error (.missing k.name)

/-- Read the settings that rendering depends on.  That a setting is missing is only noticed when
all others are read. -/
def RenderSettings.ofSetting (s : Setting) : Except SettingsError RenderSettings := do
  let found ← SettingGroup.render.found s
  let codeTag ← readOptional found .codeTag (·.toText)
  let imgTag ← readOptional found .imgTag (·.toText)
  let indent ← readOptional found .indent (·.toText)
  let asciiTable ← readOptional found .asciiTable (·.toBool)
  let links ← readOptional found .links (·.toText)
  let plain ← readOptional found .plain (·.toBool)
  let stripHtml ← readOptional found .stripHtml (·.toBool)
  let baseUrl ← readOptional found .baseUrl (·.toText)
  let mdLinks ← readOptional found .mdLinks (·.toBool)
  let tableTag ← readOptional found .tableTag (·.toText)
  let checklist ← readOptional found .checklist (·.toBool)
  let frontmatter ← readOptional found .frontmatter (·.toBool)
  let maxTableWidth ← readOptional found .maxTableWidth (·.toCount)
  return {
    codeTag := ← require .codeTag codeTag
    imgTag := ← require .imgTag imgTag
    indent := ← require .indent indent
    asciiTable := ← require .asciiTable asciiTable
    links := ← require .links links
    plain := ← require .plain plain
    stripHtml := ← require .stripHtml stripHtml
    baseUrl := ← require .baseUrl baseUrl
    mdLinks := ← require .mdLinks mdLinks
    tableTag := ← require .tableTag tableTag
    checklist := ← require .checklist checklist
    frontmatter := ← require .frontmatter frontmatter
    maxTableWidth := ← require .maxTableWidth maxTableWidth }

/-- Read where the output goes. -/
def OutputSettings.ofSetting (s : Setting) : Except SettingsError OutputSettings := do
  let found ← SettingGroup.output.found s
  let write ← readOptional found .write (·.toBool)
  let dir ← readOptional found .dir (·.toText)
  return {
    write := ← require .write write
    dir := ← require .dir dir }

/-- Read all settings. -/
def Settings.ofSetting (s : Setting) : Except SettingsError Settings := do
  let group (g : SettingGroup) : Except SettingsError Setting :=
    match s.entries.lookup g.name with
    | some found => .ok found
    | none => .error (.missing g.name)
  let render ← RenderSettings.ofSetting (← group .render)
  let output ← OutputSettings.ofSetting (← group .output)
  return ⟨render, output⟩

end Gemtext
