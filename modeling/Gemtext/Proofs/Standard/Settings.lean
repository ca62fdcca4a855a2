import Gemtext.Proofs.Standard.Merging
import Gemtext.Proofs.Standard.Values

/-!
# The standard package is lawful

Files in TOML are merged key by key with what is below them, single settings are put on top, and
the settings are read one by one (`SettingsPackage.lawful_standard`).
-/

namespace Gemtext

/-! ## Keys -/

namespace SettingKey

/-- The steps of the key as it is written. -/
def steps (k : SettingKey) : List KeyStep :=
  [.name k.group.name, .name k.name]

/-- The path of a key is read as the name of its group and its own name. -/
theorem ofText?_path (k : SettingKey) : KeyStep.ofText? k.path = some k.steps := by
  cases k <;> decide

/-- A name belongs to one key only. -/
theorem name_injective {k l : SettingKey} (h : k.name = l.name) : k = l := by
  have hfind (k : SettingKey) : all.find? (·.name = k.name) = some k := by
    cases k <;> decide
  exact Option.some.inj (by rw [← hfind k, ← hfind l, h])

/-- The steps of a key lead to this key and to no other. -/
theorem givenBy_steps (k l : SettingKey) (value : Setting) :
    l.givenBy k.steps value = if l = k then some value else none := by
  by_cases h : l = k
  · simp [steps, givenBy, h]
  · have hname : k.name ≠ l.name := fun hname => h (name_injective hname).symm
    simp [steps, givenBy, h, hname]

/-- The steps of a key are in small letters. -/
theorem map_lower_steps (k : SettingKey) : k.steps.map KeyStep.lower = k.steps := by
  simp [steps, KeyStep.lower]

end SettingKey

/-! ## Building the layers -/

namespace Settings

variable {files : List SettingsFile} {overrides : List (Text × Scalar)} {s below : Setting}

/-- The single settings on top of the files. -/
theorem layers_eq_ok_iff :
    layers files overrides = .ok s ↔
      ∃ top bottom, overrides.mapM single = .ok top ∧
        files.foldlM addFile (.group []) = .ok bottom ∧ top.foldl addSetting bottom = s := by
  unfold layers
  -- both can fail, and the single settings are read first
  cases overrides.mapM single with
  | error cause => simp [bind, Except.bind]
  | ok top =>
    cases files.foldlM addFile (.group []) with
    | error cause => simp [bind, Except.bind]
    | ok bottom => simp [bind, Except.bind, pure, Except.pure]

/-- One more file is put on top of the others. -/
theorem layers_concat_file {file : SettingsFile} {run : List (List KeyStep × Setting)}
    (hrun : file.run = .ok run) (hbelow : layers files [] = .ok below) :
    layers (files ++ [file]) [] = .ok (run.foldl addSetting below) := by
  obtain ⟨top, bottom, htop, hbottom, rfl⟩ := layers_eq_ok_iff.1 hbelow
  -- there are no single settings yet
  obtain rfl : [] = top := Except.ok.inj htop
  refine layers_eq_ok_iff.2 ⟨[], _, rfl, ?_, rfl⟩
  rw [List.foldlM_append, hbottom]
  simp [bind, Except.bind, pure, Except.pure, addFile, hrun, Except.map]

/-- One more single setting is put on top of all. -/
theorem layers_concat_override (k : SettingKey) (value : Scalar)
    (hbelow : layers files overrides = .ok below) :
    layers files (overrides ++ [(k.path, value)]) =
      .ok (addSetting below (k.steps, value.toSetting)) := by
  obtain ⟨top, bottom, htop, hbottom, rfl⟩ := layers_eq_ok_iff.1 hbelow
  -- the path of a key is read as its steps
  have hsingle : single (k.path, value) = .ok (k.steps, value.toSetting) := by
    rw [single, SettingKey.ofText?_path]
  refine layers_eq_ok_iff.2 ⟨top ++ [(k.steps, value.toSetting)], bottom, ?_, hbottom, ?_⟩
  · rw [List.mapM_append, htop]
    simp [bind, Except.bind, pure, Except.pure, hsingle]
  · rw [List.foldl_append]
    rfl

/-- A single setting changes its key only. -/
theorem value?_addSetting_steps (k l : SettingKey) (value : Scalar) (s : Setting) :
    (addSetting s (k.steps, value.toSetting)).value? l =
      if l = k then some value.toSetting else s.value? l := by
  -- a scalar in a group that is read keeps the group one without groups in it
  have htabular : Setting.isTabular (k.steps.map KeyStep.lower) value.toSetting.lowerNames := by
    rw [SettingKey.map_lower_steps]
    simp [SettingKey.steps, Setting.isTabular, Scalar.toSetting, Setting.lowerNames,
      Setting.isGroup]
  rw [value?_addSetting htabular, SettingKey.map_lower_steps, SettingKey.givenBy_steps]
  split <;> rfl

end Settings

/-! ## The laws -/

/-- What a scalar is, and the file that it comes from. -/
def Setting.scalar? : Setting → Option (Option Text × Scalar)
  | scalar origin value => some (origin, value)
  | _ => none

/-- Only a scalar is seen as one. -/
theorem Setting.scalar?_eq_some_iff {s : Setting} {origin : Option Text} {value : Scalar} :
    s.scalar? = some (origin, value) ↔ s = .scalar origin value := by
  cases s <;> simp [scalar?]

namespace SettingsPackage

/-- A file that can be read is put on top as its entries, one after the other. -/
theorem exists_run_of_isTabular {file : SettingsFile} (h : standard.isTabular file) :
    ∃ run, file.run = .ok run ∧
      (∀ entry ∈ run, Setting.isTabular (entry.1.map KeyStep.lower) entry.2.lowerNames) ∧
      ∀ k, standard.value? file k = run.reverse.findSome? fun entry =>
        SettingKey.givenBy k (entry.1.map KeyStep.lower) entry.2.lowerNames := by
  -- the entries of the package are those of the run, in small letters
  have hentries : standard.entries? file = file.run.toOption.map fun run =>
      run.map fun entry => (entry.1.map KeyStep.lower, entry.2.lowerNames) := rfl
  unfold isTabular at h
  unfold value?
  rw [hentries] at h ⊢
  -- a file that cannot be read has no entries, and no such file is tabular
  cases hrun : file.run with
  | error cause =>
    rw [hrun] at h
    cases h
  | ok run =>
    refine ⟨run, rfl, ?_, fun k => ?_⟩
    · simpa [hrun, Except.toOption, List.all_eq_true] using h
    · simp [Except.toOption, ← List.map_reverse, List.findSome?_map, Function.comp_def]

/-- The built-in settings are tables, and hold a scalar without origin for every key. -/
theorem builtIn_eq :
    standard.isTabular .builtIn ∧ ∀ k ∈ SettingKey.all,
      (standard.value? .builtIn k).bind Setting.scalar? =
        some (none, Settings.default.value k) := by
  decide +kernel

/-- The standard package does what packages are documented to do. -/
theorem lawful_standard : standard.Lawful where
  build_nil := ⟨.group [], rfl, fun k => rfl⟩
  build_file {files file below} hfile hbelow := by
    obtain ⟨run, hrun, htabular, hvalue⟩ := exists_run_of_isTabular hfile
    refine ⟨_, Settings.layers_concat_file hrun hbelow, fun k => ?_⟩
    rw [Settings.value?_foldl_addSetting htabular, hvalue]
  build_override k value hbelow :=
    ⟨_, Settings.layers_concat_override k value hbelow,
      fun l => Settings.value?_addSetting_steps k l value _⟩
  read_eq_ok_iff := ofSetting_eq_ok_iff
  exists_of_read_eq_error := exists_of_ofSetting_eq_error
  toBool_boolean key b := rfl
  toCount_integer key n := by simp [standard, FoundSetting.toCount, Scalar.toSetting]
  toText_text key s := rfl
  isTabular_builtIn := builtIn_eq.1
  value?_builtIn k := by
    obtain ⟨found, hfound, hscalar⟩ := Option.bind_eq_some_iff.1 (builtIn_eq.2 k k.mem_all)
    -- a scalar without origin is what the built-in settings are written as
    rw [hfound, Setting.scalar?_eq_some_iff.1 hscalar]
    rfl

end SettingsPackage

end Gemtext
