import Gemtext.Proofs.List
import Gemtext.Proofs.Settings.Layers
import Gemtext.Standard.Settings

/-!
# What a setting changes

Settings are put on top of each other one by one, each at the place that the steps of its key lead
to.  As long as the groups stay tables without tables in them, such a step changes the keys that it
gives a value and no others (`value?_addSetting`), and a run of steps leaves each key with the last
value that it was given (`value?_foldl_addSetting`).
-/

namespace Gemtext

/-- The names of the keys are in small letters, as is what a file sets. -/
@[simp]
theorem SettingKey.lower_name (k : SettingKey) : Text.lower k.name = k.name := by
  cases k <;> decide

@[simp]
theorem SettingGroup.lower_name (g : SettingGroup) : Text.lower g.name = g.name := by
  cases g <;> decide

theorem SettingGroup.isName_name (g : SettingGroup) : isName g.name := by
  cases g <;> decide

namespace Setting

variable {name parent : Text} {s value : Setting} {entries : List (Text × Setting)}
  {steps : List KeyStep} {k : SettingKey}

/-! ## Groups -/

@[simp]
theorem isGroup_lowerNames (s : Setting) : s.lowerNames.isGroup = s.isGroup := by
  cases s <;> rfl

/-- Replacing an entry changes what stands for its name, and nothing else. -/
theorem lookup_replace (name n : Text) (value : Setting) (entries : List (Text × Setting)) :
    (replace n value entries).lookup name =
      if name = n then some value else entries.lookup name := by
  induction entries with
  | nil => simp [replace, List.lookup_cons_eq_if]
  | cons entry rest ih =>
    obtain ⟨first, v⟩ := entry
    -- the entry is the one that is replaced, or it stays in front
    by_cases hfirst : first = n
    · subst hfirst
      by_cases h : name = first <;> simp [replace, List.lookup_cons_eq_if, h]
    · by_cases h : name = first
      · simp [replace, hfirst, h]
      · simp [replace, List.lookup_cons_eq_if, hfirst, h, ih]

/-- Setting a name changes that name only. -/
theorem lookup_set (name n : Text) (s value : Setting) :
    (s.set n value).entries.lookup name =
      if Text.lower n = name then some value else s.entries.lookup name := by
  simp only [eq_comm (a := Text.lower n)]
  exact lookup_replace name (Text.lower n) value s.entries

/-- What is no group is not merged: it takes the place of what was there. -/
theorem put_of_not_isGroup (h : value.isGroup = false) : s.put name value = s.set name value := by
  cases value with
  | group entries => cases h
  | empty | scalar | list => rw [put]; simp

/-- Entries are put into a group from the first to the last. -/
theorem putAll_eq_foldl (s : Setting) (entries : List (Text × Setting)) :
    s.putAll entries = entries.foldl (fun s (name, value) => s.put name value) s := by
  induction entries generalizing s with
  | nil => rfl
  | cons entry rest ih => exact ih _

/-- A group that is merged with entries has the last of them for each name, or what it had. -/
theorem lookup_putAll (h : ∀ entry ∈ entries, entry.2.isGroup = false) (name : Text)
    (s : Setting) :
    (s.putAll entries).entries.lookup name =
      (lastNamed? name (lowerNames (.group entries)).entries).or (s.entries.lookup name) := by
  -- the names of the entries are read in small letters
  have hlast : lastNamed? name (lowerNames (.group entries)).entries =
      entries.reverse.findSome? fun (n, value) =>
        if Text.lower n = name then some value else none := by
    simp [lastNamed?, lowerNames, ← List.map_reverse, List.findSome?_map,
      Function.comp_def]
  rw [putAll_eq_foldl, hlast]
  -- it remains to look at one entry
  refine List.get_foldl (f := fun s => s.entries.lookup name) ?_ s
  rintro s ⟨n, value⟩ hentry
  dsimp only
  rw [put_of_not_isGroup (h _ hentry), lookup_set]
  by_cases hname : Text.lower n = name <;> simp [hname]

/-! ## One step -/

/-- Steps that lead to no group that is read, a table in the place of a group, or a setting in a
group. -/
theorem isTabular_cases (h : isTabular (steps.map KeyStep.lower) value.lowerNames) :
    ∃ parent further, steps = .name parent :: further ∧
      (SettingGroup.isName (Text.lower parent) = false ∨
        (further = [] ∧
          ∃ entries, value = .group entries ∧ ∀ entry ∈ entries, entry.2.isGroup = false) ∨
        ∃ name, further = [.name name] ∧ value.isGroup = false) := by
  cases steps with
  | nil => cases h
  | cons step further =>
    cases step with
    | place index => cases h
    | name parent =>
      refine ⟨parent, further, rfl, ?_⟩
      cases hparent : SettingGroup.isName (Text.lower parent) with
      | false => exact .inl rfl
      | true =>
        refine .inr ?_
        simp only [List.map_cons, KeyStep.lower, isTabular, hparent, Bool.not_true,
          Bool.false_or] at h
        -- how many steps are left to go in the group decides
        rcases further with _ | ⟨_ | _, _ | _⟩
        · cases value with
          | group entries =>
            exact .inl ⟨rfl, entries, rfl, by simpa [lowerNames, isFlatGroup] using h⟩
          | empty | scalar | list => cases h
        · exact .inr ⟨_, rfl, by simpa [KeyStep.lower] using h⟩
        all_goals cases h

/-- Setting a name changes the keys in it only. -/
theorem value?_set (k : SettingKey) (parent : Text) (s t : Setting) :
    (s.set parent t).value? k =
      if Text.lower parent = k.group.name then t.entries.lookup k.name else s.value? k := by
  rw [value?, lookup_set]
  split <;> rfl

/-- The keys in a group that may be missing or something else. -/
theorem lookup_entries_getD (h : Text.lower parent = k.group.name) (default : Setting)
    (hdefault : default.entries = []) (s : Setting) :
    ((s.get? parent).getD default).entries.lookup k.name = s.value? k := by
  rw [get?, h, value?]
  cases s.entries.lookup k.group.name with
  | none => rw [Option.getD_none, hdefault]; rfl
  | some group => rfl

/-- Putting a table into a group gives each key the last value that the table has for it. -/
theorem value?_setAt_group (hentries : ∀ entry ∈ entries, entry.2.isGroup = false)
    (k : SettingKey) (parent : Text) (s : Setting) :
    (setAt (.group entries) [.name parent] s).value? k =
      (k.givenBy [.name (Text.lower parent)] (lowerNames (.group entries))).or (s.value? k) := by
  have hset : setAt (.group entries) [.name parent] s =
      s.set parent (((s.get? parent).getD (.group [])).putAll entries) := rfl
  rw [hset, value?_set, SettingKey.givenBy]
  -- only the keys of the group can change
  split
  · next h => rw [lookup_putAll hentries, lookup_entries_getD h (.group []) rfl]
  · rw [Option.none_or]

/-- Setting a name in a group gives the key of that name its value. -/
theorem value?_setAt_name (hvalue : value.isGroup = false) (k : SettingKey) (parent name : Text)
    (s : Setting) :
    (setAt value [.name parent, .name name] s).value? k =
      (k.givenBy [.name (Text.lower parent), .name (Text.lower name)] value).or
        (s.value? k) := by
  have hset : setAt value [.name parent, .name name] s =
      s.set parent (((s.get? parent).getD .empty).put name value) := rfl
  rw [hset, value?_set, SettingKey.givenBy, put_of_not_isGroup hvalue, lookup_set]
  -- only the keys of the group can change, and in it only the one of the name
  by_cases h : Text.lower parent = k.group.name
  · rw [if_pos h, lookup_entries_getD h .empty rfl]
    by_cases hname : Text.lower name = k.name <;> simp [h, hname]
  · simp [h]

/-- What steps that begin with a name change is what has that name. -/
theorem exists_setAt_eq_set (value : Setting) (parent : Text) (steps : List KeyStep)
    (s : Setting) : ∃ t, setAt value (.name parent :: steps) s = s.set parent t := by
  cases steps with
  | nil =>
    cases value with
    | group entries => exact ⟨_, rfl⟩
    | empty | scalar | list => exact ⟨_, put_of_not_isGroup rfl⟩
  | cons step steps => exact ⟨_, rfl⟩

/-- A name that is none of a group that is read is not the one of the group of a key. -/
theorem ne_of_not_isName (h : SettingGroup.isName name = false) (k : SettingKey) :
    name ≠ k.group.name := by
  rintro rfl
  rw [SettingGroup.isName_name] at h
  cases h

/-- Steps that lead to no group that is read give no key a value. -/
theorem givenBy_of_not_isName (h : SettingGroup.isName name = false) (k : SettingKey)
    (steps : List KeyStep) (value : Setting) : k.givenBy (.name name :: steps) value = none := by
  have hne := ne_of_not_isName h k
  unfold SettingKey.givenBy
  split <;> simp_all

/-- Steps that lead to no group that is read change no key. -/
theorem value?_setAt_of_not_isName (h : SettingGroup.isName (Text.lower parent) = false)
    (value : Setting) (steps : List KeyStep) (k : SettingKey) (s : Setting) :
    (setAt value (.name parent :: steps) s).value? k = s.value? k := by
  obtain ⟨t, ht⟩ := exists_setAt_eq_set value parent steps s
  rw [ht, value?_set, if_neg (ne_of_not_isName h k)]

end Setting

namespace Settings

open Setting

/-- A step changes the keys that it gives a value. -/
theorem value?_addSetting {entry : List KeyStep × Setting}
    (h : Setting.isTabular (entry.1.map KeyStep.lower) entry.2.lowerNames) (k : SettingKey)
    (s : Setting) :
    (addSetting s entry).value? k =
      (k.givenBy (entry.1.map KeyStep.lower) entry.2.lowerNames).or (s.value? k) := by
  obtain ⟨steps, value⟩ := entry
  obtain ⟨parent, further, rfl, hother | ⟨rfl, entries, rfl, hentries⟩ | ⟨name, rfl, hvalue⟩⟩ :=
    isTabular_cases h
  · -- nothing that is read
    rw [List.map_cons, KeyStep.lower, givenBy_of_not_isName hother, Option.none_or]
    exact value?_setAt_of_not_isName hother value further k s
  · -- a table in the place of a group
    exact value?_setAt_group hentries k parent s
  · -- one setting of a group, which holds no names that could be written otherwise
    have hsame : value.lowerNames = value := by
      cases value with
      | group entries => cases hvalue
      | empty | scalar | list => rfl
    simp only [List.map_cons, List.map_nil, KeyStep.lower, hsame]
    exact value?_setAt_name hvalue k parent name s

/-- A run of steps leaves each key with the last value that it was given. -/
theorem value?_foldl_addSetting {run : List (List KeyStep × Setting)}
    (h : ∀ entry ∈ run, Setting.isTabular (entry.1.map KeyStep.lower) entry.2.lowerNames)
    (k : SettingKey) (s : Setting) :
    (run.foldl addSetting s).value? k =
      (run.reverse.findSome? fun entry =>
        k.givenBy (entry.1.map KeyStep.lower) entry.2.lowerNames).or (s.value? k) :=
  List.get_foldl (f := Setting.value? k)
    (fun s entry hentry => value?_addSetting (h entry hentry) k s) s

end Settings

end Gemtext
