import Gemtext.Proofs.List
import Gemtext.Proofs.Settings.Layers
import Gemtext.Standard.Settings

/-!
# The settings one by one

From groups in which all settings are found, `Settings.ofSetting` reads them one after the other
(`map_values_ofSetting`): the settings are the values that are read, and the first value that cannot
be read is the failure.
-/

namespace Gemtext

/-- All keys are listed. -/
theorem SettingKey.mem_all (k : SettingKey) : k ∈ all := by
  cases k <;> decide

namespace Settings

/-- The values of all settings. -/
def values (s : Settings) : List Scalar :=
  SettingKey.all.map s.value

/-- Settings with the same values are the same: each field is the value of a key. -/
theorem values_injective {s t : Settings} (h : s.values = t.values) : s = t := by
  obtain ⟨⟨⟩, ⟨⟩⟩ := s
  obtain ⟨⟨⟩, ⟨⟩⟩ := t
  simpa [values, SettingKey.all, value, and_assoc, Int.natCast_inj] using h

end Settings

section

variable {g : SettingGroup} {values : SettingKey → Setting} {found : List (Text × FoundSetting)}
  {s : Setting}

/-! ## Finding the settings of a group -/

/-- What was found in a group are the given values. -/
def Finds (g : SettingGroup) (values : SettingKey → Setting)
    (found : List (Text × FoundSetting)) : Prop :=
  ∀ k : SettingKey, k.group = g → found.lookup k.name = some ⟨k.path, values k⟩

/-- What is found in a group is its entry of the same name, with the path that leads to it. -/
theorem lookup_map_found (name : Text) (entries : List (Text × Setting)) :
    (entries.map fun (n, value) => (n, (⟨g.name ++ '.' :: n, value⟩ : FoundSetting))).lookup name =
      (entries.lookup name).map fun value => ⟨g.name ++ '.' :: name, value⟩ := by
  induction entries with
  | nil => rfl
  | cons entry rest ih =>
    obtain ⟨n, value⟩ := entry
    by_cases h : name = n
    · simp [h]
    · simpa [List.lookup_cons_eq_if, h] using ih

/-- If every key has a value, there are groups, since nothing else holds a setting with a name. -/
theorem exists_group (h : ∀ k, s.value? k = some (values k)) (g : SettingGroup) :
    ∃ entries, s.entries.lookup g.name = some (.group entries) := by
  -- both groups hold a key
  obtain ⟨k, rfl⟩ : ∃ k : SettingKey, k.group = g := by
    cases g with
    | render => exact ⟨.codeTag, rfl⟩
    | output => exact ⟨.dir, rfl⟩
  obtain ⟨group, hgroup, hvalue⟩ := Option.bind_eq_some_iff.1 (h k)
  -- what holds a name is a group
  cases group with
  | group entries => exact ⟨entries, hgroup⟩
  | empty | scalar | list => cases hvalue

/-- If every key has a value, each group finds its values. -/
theorem exists_finds (h : ∀ k, s.value? k = some (values k)) (g : SettingGroup) :
    ∃ group found, s.entries.lookup g.name = some group ∧ g.found group = pure found ∧
      Finds g values found := by
  obtain ⟨entries, hentries⟩ := exists_group h g
  refine ⟨_, _, hentries, rfl, ?_⟩
  rintro k rfl
  -- a key of the group is looked up in it
  have hvalue : entries.lookup k.name = some (values k) := by
    simpa [Setting.value?, hentries] using h k
  rw [lookup_map_found, hvalue]
  rfl

/-! ## Reading the groups -/

/-- A setting that is found is read. -/
theorem readOptional_of_finds {α : Type} (h : Finds g values found) (k : SettingKey)
    (hk : k.group = g) (read : FoundSetting → Except SettingsError α) :
    readOptional found k read = some <$> read ⟨k.path, values k⟩ := by
  rw [readOptional, h k hk]
  rfl

/-- A setting that was found is not missed. -/
@[simp]
theorem require_some {α : Type} (k : SettingKey) (a : α) : require k (some a) = pure a := rfl

open SettingsPackage in
/-- The settings are read one after the other. -/
theorem map_values_ofSetting (h : ∀ k, s.value? k = some (values k)) :
    (Settings.ofSetting s).map Settings.values =
      SettingKey.all.mapM fun k => standard.readKey k (values k) := by
  obtain ⟨render, _, hrender, hfoundRender, hfindsRender⟩ := exists_finds h .render
  obtain ⟨output, _, houtput, hfoundOutput, hfindsOutput⟩ := exists_finds h .output
  -- as monadic terms, so that the reading unfolds to a sequence of binds
  have hok {α : Type} (a : α) : (.ok a : Except SettingsError α) = pure a := rfl
  have hmap {α β : Type} (f : α → β) (x : Except SettingsError α) : x.map f = f <$> x := rfl
  have hread {α : Type} := readOptional_of_finds (α := α) hfindsRender
  have hwrite := readOptional_of_finds hfindsOutput .write rfl (·.toBool)
  have hdir := readOptional_of_finds hfindsOutput .dir rfl (·.toText)
  -- every setting is there, so that only reading it can fail
  simp only [Settings.ofSetting, hrender, houtput, RenderSettings.ofSetting, hfoundRender,
    hread .codeTag rfl, hread .imgTag rfl, hread .indent rfl, hread .asciiTable rfl,
    hread .links rfl, hread .plain rfl, hread .stripHtml rfl, hread .baseUrl rfl,
    hread .mdLinks rfl, hread .tableTag rfl, hread .checklist rfl, hread .frontmatter rfl,
    hread .maxTableWidth rfl, OutputSettings.ofSetting, hfoundOutput, hwrite, hdir,
    require_some, hok, hmap, bind_map_left, pure_bind, bind_assoc, map_bind, map_pure]
  simp only [SettingKey.all, List.mapM_cons, List.mapM_nil, readKey, standard, hmap,
    bind_map_left, pure_bind, bind_assoc]
  rfl

/-- The settings are those whose values are read, one for each key. -/
theorem ofSetting_eq_ok_iff (h : ∀ k, s.value? k = some (values k)) (settings : Settings) :
    Settings.ofSetting s = .ok settings ↔
      ∀ k, SettingsPackage.standard.readKey k (values k) = .ok (settings.value k) := by
  have hread := map_values_ofSetting h
  -- reading each value is reading all of them in a row
  have hall : (∀ k, SettingsPackage.standard.readKey k (values k) = .ok (settings.value k)) ↔
      (SettingKey.all.mapM fun k => SettingsPackage.standard.readKey k (values k)) =
        .ok settings.values := by
    rw [Settings.values, List.mapM_eq_ok_map_iff]
    exact ⟨fun h k _ => h k, fun h k => h k k.mem_all⟩
  rw [hall, ← hread]
  -- settings are told by their values
  cases Settings.ofSetting s with
  | error cause => simp [Except.map]
  | ok settings' =>
    simp only [Except.map, Except.ok.injEq]
    exact ⟨congrArg Settings.values, Settings.values_injective⟩

/-- If the settings cannot be read, then because one of the values cannot be read. -/
theorem exists_of_ofSetting_eq_error {cause : SettingsError}
    (h : ∀ k, s.value? k = some (values k)) (herror : Settings.ofSetting s = .error cause) :
    ∃ k, SettingsPackage.standard.readKey k (values k) = .error cause := by
  have hread := map_values_ofSetting h
  rw [herror] at hread
  obtain ⟨k, -, hk⟩ := List.exists_of_mapM_eq_error hread.symm
  exact ⟨k, hk⟩

end

end Gemtext
