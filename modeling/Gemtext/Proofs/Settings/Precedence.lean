import Gemtext.Proofs.Settings.Layers
import Mathlib.Data.List.Induction

/-!
# Which layer decides

The settings are loaded from layers: single settings, below them the files from the last to the
first, and below all the built-in ones.  Each setting is read from the topmost layer that sets its
key (`load_eq_ok_iff`), and a setting that cannot be read stands in such a place
(`exists_of_load_eq_error`).  What lies below has no effect.
-/

namespace Gemtext

namespace SettingKey

/-- The last of the given values of the key. -/
def lastGiven? (given : List (SettingKey × Scalar)) (k : SettingKey) : Option Scalar :=
  given.reverse.findSome? fun (l, value) => if l = k then some value else none

/-- What is given at the end is the last that its key is given. -/
theorem lastGiven?_concat (given : List (SettingKey × Scalar)) (l k : SettingKey)
    (value : Scalar) :
    lastGiven? (given ++ [(l, value)]) k = if k = l then some value else lastGiven? given k := by
  rw [lastGiven?, List.reverse_concat, List.findSome?_cons]
  by_cases h : k = l
  · simp [h]
  · simp [h, Ne.symm h, lastGiven?]

/-- If a key is not given different values, the last one is the one that it is given. -/
theorem lastGiven?_eq_some_iff {given : List (SettingKey × Scalar)} {k : SettingKey} {v : Scalar}
    (h : ∀ u w, (k, u) ∈ given → (k, w) ∈ given → u = w) :
    lastGiven? given k = some v ↔ (k, v) ∈ given := by
  -- what is found was given; that the key is given anything at all is enough for the rest
  have hmem {v : Scalar} (hv : lastGiven? given k = some v) : (k, v) ∈ given := by
    obtain ⟨⟨l, value⟩, hgiven, hl⟩ := List.exists_of_findSome?_eq_some hv
    obtain ⟨rfl, rfl⟩ : l = k ∧ value = v := by simpa using hl
    exact List.mem_reverse.1 hgiven
  refine ⟨hmem, fun hv => ?_⟩
  have hsome : (lastGiven? given k).isSome :=
    List.findSome?_isSome_iff.2 ⟨(k, v), List.mem_reverse.2 hv, by simp⟩
  obtain ⟨w, hw⟩ := Option.isSome_iff_exists.1 hsome
  rw [hw, h w v (hmem hw) hv]

end SettingKey

namespace SettingsPackage

variable {ε : Type} {P : SettingsPackage ε} {files : List SettingsFile}

/-! ## Building the layers -/

/-- Files on top of each other hold for each key what the last one sets it to that does so. -/
theorem Lawful.exists_build_files (hP : P.Lawful) (h : ∀ file ∈ files, P.isTabular file) :
    ∃ s, P.build files [] = .ok s ∧ ∀ k, s.value? k = files.reverse.findSome? (P.value? · k) := by
  -- from the bottom to the top, as they are put on top of each other
  induction files using List.reverseRecOn with
  | nil => exact hP.build_nil
  | append_singleton files file ih =>
    obtain ⟨below, hbelow, hvalue⟩ := ih fun file hfile => h file (List.mem_append_left _ hfile)
    obtain ⟨above, habove, hon⟩ := hP.build_file (h file (by simp)) hbelow
    refine ⟨above, habove, fun k => ?_⟩
    rw [hon, hvalue, List.reverse_concat, List.findSome?_cons]
    cases P.value? file k <;> rfl

/-- Single settings on top of files hold the last value that a key is given, or else leave what the
files hold. -/
theorem Lawful.exists_build (hP : P.Lawful) (h : ∀ file ∈ files, P.isTabular file)
    (given : List (SettingKey × Scalar)) :
    ∃ s, P.build files (given.map (Prod.map SettingKey.path id)) = .ok s ∧
      ∀ k, s.value? k = ((SettingKey.lastGiven? given k).map Scalar.toSetting).or
        (files.reverse.findSome? (P.value? · k)) := by
  -- one single setting after the other, each one above all that are there already
  induction given using List.reverseRecOn with
  | nil => exact hP.exists_build_files h
  | append_singleton given entry ih =>
    obtain ⟨l, value⟩ := entry
    obtain ⟨below, hbelow, hvalue⟩ := ih
    obtain ⟨above, habove, hon⟩ := hP.build_override l value hbelow
    refine ⟨above, by rwa [List.map_append], fun k => ?_⟩
    rw [hon, hvalue, SettingKey.lastGiven?_concat]
    split <;> rfl

/-- All layers on top of each other hold for each key what the topmost one sets it to that does
so: the built-in settings are at the bottom and set every key. -/
theorem Lawful.exists_build_builtIn (hP : P.Lawful) (h : ∀ file ∈ files, P.isTabular file)
    (given : List (SettingKey × Scalar)) :
    ∃ s, P.build (.builtIn :: files) (given.map (Prod.map SettingKey.path id)) = .ok s ∧
      ∀ k, s.value? k = some (P.topmost (SettingKey.lastGiven? given) files k) := by
  -- the built-in settings are one more file, below the others
  have hall : ∀ file ∈ SettingsFile.builtIn :: files, P.isTabular file :=
    List.forall_mem_cons.2 ⟨hP.isTabular_builtIn, h⟩
  obtain ⟨s, hs, hvalue⟩ := hP.exists_build hall given
  refine ⟨s, hs, fun k => ?_⟩
  rw [hvalue, List.reverse_cons, List.findSome?_append, List.findSome?_singleton,
    hP.value?_builtIn, ← Option.or_assoc, topmost]
  cases ((SettingKey.lastGiven? given k).map Scalar.toSetting).or
    (files.reverse.findSome? (P.value? · k)) <;> rfl

/-! ## Loading the settings -/

/-- The settings are those that are read from the topmost layer that sets each key. -/
theorem Lawful.load_eq_ok_iff (hP : P.Lawful) (h : ∀ file ∈ files, P.isTabular file)
    (given : List (SettingKey × Scalar)) (settings : Settings) :
    Settings.load P files (given.map (Prod.map SettingKey.path id)) = .ok settings ↔
      ∀ k, P.readKey k (P.topmost (SettingKey.lastGiven? given) files k) =
        .ok (settings.value k) := by
  obtain ⟨s, hs, hvalue⟩ := hP.exists_build_builtIn h given
  rw [Settings.load, hs]
  exact hP.read_eq_ok_iff hvalue settings

/-- If the settings cannot be loaded, then because of the topmost layer that sets some key. -/
theorem Lawful.exists_of_load_eq_error (hP : P.Lawful) (h : ∀ file ∈ files, P.isTabular file)
    (given : List (SettingKey × Scalar)) {cause : ε}
    (herror : Settings.load P files (given.map (Prod.map SettingKey.path id)) = .error cause) :
    ∃ k, P.readKey k (P.topmost (SettingKey.lastGiven? given) files k) = .error cause := by
  obtain ⟨s, hs, hvalue⟩ := hP.exists_build_builtIn h given
  rw [Settings.load, hs] at herror
  exact hP.exists_of_read_eq_error hvalue herror

/-- Without files and single settings, the built-in settings are loaded. -/
theorem Lawful.load_nil (hP : P.Lawful) : Settings.load P [] [] = .ok Settings.default := by
  have hnone : ∀ file ∈ ([] : List SettingsFile), P.isTabular file := nofun
  refine (hP.load_eq_ok_iff hnone [] Settings.default).2 fun k => ?_
  -- nothing stands above the built-in settings
  have htop : P.topmost (SettingKey.lastGiven? []) [] k =
      (Settings.default.value k).toSetting := rfl
  rw [htop]
  have hcount : P.toCount SettingKey.maxTableWidth.path
      (Scalar.integer Settings.default.render.maxTableWidth).toSetting =
        .ok Settings.default.render.maxTableWidth := hP.toCount_integer _ 80
  cases k <;>
    simp [readKey, Settings.value, hP.toBool_boolean, hP.toText_text, hcount, Except.map]

end SettingsPackage

end Gemtext
