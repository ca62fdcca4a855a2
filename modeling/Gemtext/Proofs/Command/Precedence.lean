import Gemtext.Proofs.Command.Conversions
import Gemtext.Proofs.Command.Switches
import Gemtext.Proofs.Standard.Settings
import Gemtext.Standard.Arguments

/-!
# The settings of the command

The command loads its settings from the built-in ones, from the file in the working directory, from
the file that is named by a switch, and from the other switches.  Each setting is the one of the
topmost of these layers that sets it (`topmost_setting_decides`).
-/

namespace Gemtext

namespace Command

open Command.Action

variable {ε : Type}

/-! ## Files with settings -/

namespace Workspace

/-- What is read from a workspace as the settings file of the given name: the first file that one of
the paths leads to at which it is looked for. -/
def settingsFile (P : SettingsPackage ε) (w : Workspace) (name : Text) (optional : Bool) :
    SettingsFile :=
  let found := (P.candidates name).findSome? fun path =>
    ((w.resolve? path).bind w.content?).map fun bytes => (path, bytes)
  match found with
  | some (path, bytes) => ⟨some (P.nameOf path), some (P.decode bytes), optional⟩
  | none => ⟨some name, none, optional⟩

/-- Looking for the first path that leads to a file leaves the workspace as it is. -/
theorem findM?_isFile (paths : List Text) (w : Workspace) :
    (paths.findM? host.isFile).run w =
      (paths.find? fun path => ((w.resolve? path).bind w.content?).isSome, w) := by
  induction paths with
  | nil => rfl
  | cons path paths ih =>
    -- asking for a file changes nothing, so the next path is asked for in the same workspace
    have hfile : host.isFile path w = (((w.resolve? path).bind w.content?).isSome, w) := rfl
    rw [List.findM?, StateT.run_bind, List.find?_cons]
    simp only [StateT.run, hfile]
    cases ((w.resolve? path).bind w.content?).isSome with
    | true => rfl
    | false => exact ih

/-- A file that a path leads to can be read. -/
theorem run_readFile {w : Workspace} {path : Text} {bytes : List UInt8}
    (h : (w.resolve? path).bind w.content? = some bytes) :
    (host.readFile path).run w = (.ok bytes, w) := by
  show host.readFile path w = (.ok bytes, w)
  simp only [host, h]

/-- The command reads the settings file, and leaves the workspace as it is. -/
theorem readSettingsFile_eq (P : SettingsPackage ε) (name : Text) (optional : Bool)
    (w : Workspace) :
    readSettingsFile P host name optional w = (w.settingsFile P name optional, w) := by
  show (readSettingsFile P host name optional).run w = _
  rw [readSettingsFile, StateT.run_bind, findM?_isFile, settingsFile, List.findSome?_map_pair]
  cases hfind : (P.candidates name).find? fun path =>
      ((w.resolve? path).bind w.content?).isSome with
  | none => rfl
  | some path =>
    -- what was found is a file, so that it can be read
    have hsome : ((w.resolve? path).bind w.content?).isSome := by
      simpa using List.find?_some hfind
    obtain ⟨bytes, hbytes⟩ := Option.isSome_iff_exists.1 hsome
    rw [Option.bind_some, hbytes]
    show (host.readFile path >>= _).run w = _
    rw [StateT.run_bind, run_readFile hbytes]
    rfl

end Workspace

/-- The files with settings, from the lowest layer to the topmost one: the one in the working
directory, which may be missing, and the one that is named by a switch. -/
def Arguments.settingsFiles (P : SettingsPackage ε) (a : Arguments) (w : Workspace) :
    List SettingsFile :=
  w.settingsFile P settingsFileName true ::
    (a.text? .config).toList.map fun name => w.settingsFile P name false

/-- The command loads its settings from its files and switches. -/
theorem runIn_loadSettings (P : SettingsPackage ε) (a : Arguments) (printed : Text)
    (w : Workspace) :
    (loadSettings P Workspace.host a).runIn printed w =
      (((Settings.load P (a.settingsFiles P w) a.settings).mapError (.settings ∘ P.message),
        printed), w) := by
  unfold loadSettings Arguments.settingsFiles
  -- the switch that names a file may be missing
  cases a.text? .config with
  | none => simp [Workspace.readSettingsFile_eq]
  | some name => simp [Workspace.readSettingsFile_eq]

/-! ## Switches on top of the files -/

namespace Arguments

variable {P : SettingsPackage ε} {a : Arguments} {g : GivenSwitch} {files : List SettingsFile}

/-- The settings are those that are read from the topmost layer that sets each key. -/
theorem load_settings_eq_ok_iff (hP : P.Lawful) (hfiles : ∀ file ∈ files, P.isTabular file)
    (a : Arguments) (settings : Settings) :
    Settings.load P files a.settings = .ok settings ↔
      ∀ k, P.readKey k (P.topmost a.value? files k) = .ok (settings.value k) := by
  rw [settings_eq, hP.load_eq_ok_iff hfiles, lastGiven?_given]

/-- If the settings cannot be loaded, then because of the topmost layer that sets some key. -/
theorem exists_of_load_settings_eq_error (hP : P.Lawful)
    (hfiles : ∀ file ∈ files, P.isTabular file) {cause : ε}
    (herror : Settings.load P files a.settings = .error cause) :
    ∃ k, P.readKey k (P.topmost a.value? files k) = .error cause := by
  rw [settings_eq] at herror
  rw [← lastGiven?_given]
  exact hP.exists_of_load_eq_error hfiles a.given herror

/-- A switch is on top for the key that it sets. -/
theorem readKey_topmost_give_of_sets (hP : P.Lawful) {k : SettingKey} {v : Scalar}
    (h : g.sets? = some (k, v)) (a : Arguments) (files : List SettingsFile) :
    P.readKey k (P.topmost (a.give g).value? files k) = .ok v := by
  rw [SettingsPackage.topmost, value?_give_of_sets h]
  exact GivenSwitch.readKey_toSetting hP h

/-- A switch does not change what is on top for a key that it does not set. -/
theorem topmost_give_of_ne {k : SettingKey} (h : ∀ v, g.sets? ≠ some (k, v)) (a : Arguments)
    (files : List SettingsFile) :
    P.topmost (a.give g).value? files k = P.topmost a.value? files k := by
  rw [SettingsPackage.topmost, SettingsPackage.topmost, value?_give_of_ne h]

/-- With one more switch, its key is set to its value, and all others to what they are set to
without it. -/
theorem load_settings_give (hP : P.Lawful) (hfiles : ∀ file ∈ files, P.isTabular file)
    (a : Arguments) (g : GivenSwitch) (settings : Settings) :
    Settings.load P files (a.give g).settings = .ok settings ↔
      (∀ k v, g.sets? = some (k, v) → settings.value k = v) ∧
        ∀ k, (∀ v, g.sets? ≠ some (k, v)) →
          P.readKey k (P.topmost a.value? files k) = .ok (settings.value k) := by
  rw [load_settings_eq_ok_iff hP hfiles]
  constructor
  · refine fun hread => ⟨fun k v hk => ?_, fun k hk => ?_⟩
    · -- what is read for the key of the switch is the value of the switch
      have hset := readKey_topmost_give_of_sets hP hk a files
      exact Except.ok.inj ((hread k).symm.trans hset)
    · rw [← topmost_give_of_ne hk a files]
      exact hread k
  · -- a key is the key of the switch, or nothing changed for it
    rintro ⟨hset, hkept⟩ k
    by_cases hk : ∃ v, g.sets? = some (k, v)
    · obtain ⟨v, hv⟩ := hk
      rw [readKey_topmost_give_of_sets hP hv, hset k v hv]
    · have hne : ∀ v, g.sets? ≠ some (k, v) := fun v hv => hk ⟨v, hv⟩
      rw [topmost_give_of_ne hne]
      exact hkept k hne

end Arguments

end Command

open Command Command.Action

/-- The command loads its settings from layers: its switches stand above the file that one of them
names, below that is the file in the working directory, and below that are the built-in settings.
If the package that loads them does what it is documented to do, and the groups in the files are
tables without tables in them, each setting is what the topmost layer that sets its key sets it to,
and what lies below has no effect: the settings cannot be loaded only if the topmost layer sets some
key to what cannot be read.  One more switch sets its own key and changes no other. -/
theorem topmost_setting_decides {ε : Type} {P : SettingsPackage ε} (hP : P.Lawful)
    (a : Arguments) {files : List SettingsFile} (hfiles : ∀ file ∈ files, P.isTabular file) :
    (∀ settings : Settings, Settings.load P files a.settings = .ok settings ↔
        ∀ k, P.readKey k (P.topmost a.value? files k) = .ok (settings.value k)) ∧
      (∀ cause : ε, Settings.load P files a.settings = .error cause →
        ∃ k, P.readKey k (P.topmost a.value? files k) = .error cause) ∧
      (∀ (g : GivenSwitch) (settings : Settings),
        Settings.load P files (a.give g).settings = .ok settings ↔
          (∀ k v, g.sets? = some (k, v) → settings.value k = v) ∧
            ∀ k, (∀ v, g.sets? ≠ some (k, v)) →
              P.readKey k (P.topmost a.value? files k) = .ok (settings.value k)) ∧
      ∀ (printed : Text) (w : Workspace),
        (loadSettings P Workspace.host a).runIn printed w =
          (((Settings.load P (a.settingsFiles P w) a.settings).mapError
            (.settings ∘ P.message), printed), w) :=
  ⟨Arguments.load_settings_eq_ok_iff hP hfiles a,
    fun _ => Arguments.exists_of_load_settings_eq_error hP hfiles,
    Arguments.load_settings_give hP hfiles a, runIn_loadSettings P a⟩

/-- Values that cannot be read have no effect below a switch and below the file that is named. -/
theorem topmost_setting_decides_overridden :
    let standing : SettingsFile := ⟨some "md2gmi.toml".toList, some
      "[render]\nlinks = 'off'\nchecklist = 'maybe'\nmax_table_width = 'wide'\n".toList, true⟩
    let named : SettingsFile := ⟨some "my.toml".toList,
      some "[Render]\nmax_table_width = 40\n[other]\nkey = 1\n".toList, false⟩
    ∃ a, Reader.standard ["-c".toList] = .ok a ∧
      (∀ file ∈ [standing, named], SettingsPackage.standard.isTabular file) ∧
      Settings.load .standard [standing, named] a.settings =
        .ok { Settings.default with
          render := { Settings.default.render with
            links := "off".toList
            checklist := false
            maxTableWidth := 40 } } := by
  intro standing named
  have hread : Reader.standard ["-c".toList] = .ok ⟨[.noChecklist], [], none, []⟩ := by
    decide +kernel
  have hfiles : ∀ file ∈ [standing, named], SettingsPackage.standard.isTabular file := by
    decide +kernel
  refine ⟨_, hread, hfiles, ?_⟩
  -- the keys in turn: two of those that the standing file sets are set above it
  have hvalues : ∀ k ∈ SettingKey.all,
      (SettingsPackage.standard.readKey k (SettingsPackage.standard.topmost
        (Arguments.value? ⟨[.noChecklist], [], none, []⟩) [standing, named] k)).toOption =
          some (Settings.value { Settings.default with
            render := { Settings.default.render with
              links := "off".toList
              checklist := false
              maxTableWidth := 40 } } k) := by
    decide +kernel
  -- reading all settings is reading each of them
  refine ((topmost_setting_decides SettingsPackage.lawful_standard _ hfiles).1 _).2 fun k => ?_
  have hvalue := hvalues k k.mem_all
  generalize SettingsPackage.standard.readKey k _ = result at hvalue ⊢
  cases result with
  | error cause => cases hvalue
  | ok value => rw [Option.some.inj hvalue]

end Gemtext
