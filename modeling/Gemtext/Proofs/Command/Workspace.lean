import Gemtext.Command.Host
import Gemtext.Proofs.Path

/-!
# Paths and files of a workspace

A path is followed name by name (`follow?_append`), and ends in a directory if its last component
stands for one (`hasDirectory_of_follow?`).  So a gemtext file that can be written into a directory
is called by its name there (`getLast?_of_resolve?_join`).  Writing a file keeps the content of all
others (`content?_replace_of_ne`).
-/

namespace Gemtext

namespace Command

namespace Workspace

open Gemtext.Path Text

variable {w : Workspace} {names others found current : List Text} {name : Text}

/-! ## Directories -/

/-- What a directory is in is a directory. -/
theorem hasDirectory_of_isPrefix (h : names <+: others) (hothers : w.hasDirectory others) :
    w.hasDirectory names := by
  simp only [hasDirectory, Bool.or_eq_true, List.any_eq_true, List.isPrefixOf_iff_prefix,
    List.isEmpty_iff, Bool.and_eq_true, bne_iff_ne] at hothers ⊢
  -- a directory is the root, is listed, or has a file below it
  rcases hothers with (rfl | ⟨directory, hmem, hprefix⟩) | ⟨file, hmem, hprefix, hne⟩
  · exact .inl (.inl (List.prefix_nil.1 h))
  · exact .inl (.inr ⟨directory, hmem, h.trans hprefix⟩)
  · refine .inr ⟨file, hmem, h.trans hprefix, fun heq => hne ?_⟩
    -- a file that is in itself
    exact hprefix.eq_of_length_le (heq ▸ h.length_le)

/-! ## Following a path -/

/-- A path is followed in two parts, the second one from where the first one leads. -/
theorem follow?_append (w : Workspace) (current names others : List Text) :
    w.follow? current (names ++ others) =
      (w.follow? current names).bind fun found => w.follow? found others := by
  -- on the first part; each name is resolved where the path has led so far
  induction names generalizing current with
  | nil => rfl
  | cons name names ih =>
    rw [List.cons_append, follow?, follow?]
    split
    · rfl
    · split
      · exact ih current
      · split
        · split
          · rfl
          · exact ih current.dropLast
        · exact ih (current ++ [name])

/-- A name leads to what is called so in the directory. -/
theorem follow?_name (hname : IsName name) (h : w.follow? current [name] = some found) :
    found = current ++ [name] := by
  rw [follow?] at h
  split at h
  · cases h
  · rw [if_neg (by simp [hname.ne_nil, hname.ne_dot]), if_neg hname.ne_dots] at h
    exact (Option.some.inj h).symm

/-- A component that stands for a directory leads to one. -/
theorem hasDirectory_of_follow? (hname : name = [] ∨ name = ['.'] ∨ name = ['.', '.'])
    (h : w.follow? current [name] = some found) : w.hasDirectory found := by
  rw [follow?] at h
  split at h
  · cases h
  · -- the path has only led on because it was in a directory
    rename_i hcurrent
    have hcurrent : w.hasDirectory current := by simpa using hcurrent
    split at h
    · exact Option.some.inj h ▸ hcurrent
    · rename_i hproper
      -- of the three components only the last one leads elsewhere: to the directory around
      have hdots : name = ['.', '.'] := by
        rcases hname with rfl | rfl | rfl
        · simp at hproper
        · simp at hproper
        · rfl
      rw [if_pos hdots] at h
      split at h
      · cases h
      · obtain rfl : current.dropLast = found := Option.some.inj h
        exact hasDirectory_of_isPrefix (List.dropLast_prefix current) hcurrent

/-! ## Files in a directory -/

/-- The components of what is called `name` in a directory. -/
theorem exists_splitOn_join (directory name : Text) :
    name.head? = some '/' ∧ Path.join directory name = name ∨
      ∃ before, splitOn '/' (Path.join directory name) = before ++ splitOn '/' name := by
  unfold Path.join
  split
  · rename_i hroot
    exact .inl ⟨hroot, rfl⟩
  · right
    split
    · -- a directory that ends in a slash needs no other one
      rename_i hdirectory
      rw [Bool.or_eq_true, List.isEmpty_iff, decide_eq_true_iff] at hdirectory
      rcases hdirectory with rfl | hslash
      · exact ⟨[], rfl⟩
      · obtain ⟨start, rfl⟩ := List.getLast?_eq_some_iff.1 hslash
        refine ⟨splitOn '/' start, ?_⟩
        rw [List.append_assoc, List.singleton_append, splitOn_append_cons]
    · exact ⟨splitOn '/' directory, splitOn_append_cons ..⟩

/-- A gemtext file that a path in a directory leads to is called by its name. -/
theorem getLast?_of_resolve?_join {directory path : Text}
    (h : w.resolve? (Path.join directory (gemtextName path)) = some names)
    (hfile : w.hasDirectory names = false) : names.getLast? = some (gemtextName path) := by
  unfold resolve? at h
  split at h
  · cases h
  · -- an absolute path is not followed, and the name of a gemtext file is none
    rename_i hrelative
    rcases exists_splitOn_join directory (gemtextName path) with ⟨hroot, hjoin⟩ | ⟨before, hsplit⟩
    · rw [hjoin, hroot] at hrelative
      simp at hrelative
    · rcases gemtextName_cases path with ⟨hname, -⟩ | ⟨⟨start, last, hlast, hdirectory⟩, -⟩
      · -- the file has a name: the last step leads to it
        rw [hsplit, splitOn_of_not_mem hname.slash_not_mem, follow?_append] at h
        obtain ⟨current, -, h⟩ := Option.bind_eq_some_iff.1 h
        rw [follow?_name hname h]
        exact List.getLast?_concat
      · -- the name stands for a directory, where no file is written
        rw [hsplit, hlast, ← List.append_assoc, follow?_append] at h
        obtain ⟨current, -, h⟩ := Option.bind_eq_some_iff.1 h
        rw [hasDirectory_of_follow? hdirectory h] at hfile
        cases hfile

/-! ## Writing -/

/-- A file can be written where the path leads, unless a directory is there. -/
theorem write_eq_ok {path : Text} {document : List UInt8} {changed : Workspace} :
    w.write path document = .ok changed ↔ ∃ names, w.resolve? path = some names ∧
      w.hasDirectory names = false ∧
      changed = { w with files := replace names document w.files } := by
  unfold write
  constructor
  · intro h
    -- the path has to lead somewhere, and not to a directory
    split at h
    · rename_i names hresolve
      split at h
      · cases h
      · rename_i hfile
        exact ⟨names, hresolve, Bool.eq_false_iff.2 hfile, (Except.ok.inj h).symm⟩
    · cases h
  · rintro ⟨names, hresolve, hfile, rfl⟩
    simp only [hresolve, hfile, Bool.false_eq_true, if_false]

/-- What was written is there. -/
theorem content?_replace (names : List Text) (document : List UInt8)
    (files : List (List Text × List UInt8)) :
    (replace names document files).lookup names = some document := by
  -- the first file of that name is replaced, or else the new one stands at the end
  induction files with
  | nil => simp [replace]
  | cons file files ih =>
    obtain ⟨other, content⟩ := file
    rw [replace]
    split
    · rename_i heq
      simp [heq]
    · rename_i hne
      rw [List.lookup_cons, beq_false_of_ne fun heq => hne heq.symm, ih]

/-- All other files keep their content. -/
theorem content?_replace_of_ne (hne : others ≠ names) (document : List UInt8)
    (files : List (List Text × List UInt8)) :
    (replace names document files).lookup others = files.lookup others := by
  -- the file that is replaced is none of the others, wherever it stands
  induction files with
  | nil => simp [replace, List.lookup_cons, beq_false_of_ne hne]
  | cons file files ih =>
    obtain ⟨other, content⟩ := file
    rw [replace]
    split
    · rename_i heq
      rw [List.lookup_cons, List.lookup_cons, heq, beq_false_of_ne hne]
    · rw [List.lookup_cons, List.lookup_cons, ih]

end Workspace

end Command

end Gemtext
