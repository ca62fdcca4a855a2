import Gemtext.Path
import Gemtext.Proofs.Text.Lines

/-!
# The names of gemtext files

The name of a gemtext file is cut twice: the extension is taken off the name of the Markdown file,
and what is left, its stem, is taken for a name that has an extension of its own
(`gemtextName_eq`).  So a stem with a dot behind its first character loses what follows its last
dot (`gemtextName_eq_append_iff`), and two files get the same name if their stems are the same once
they are cut, and only then (`stem_fileStem_of_gemtextName`).
-/

namespace Gemtext

namespace Path

open Text

variable {path name start rest : Text}

/-! ## Stems -/

/-- The last dot of a name, with what stands on both sides of it. -/
theorem exists_eq_append_dot (h : '.' ∈ name) :
    ∃ start rest, name = start ++ '.' :: rest ∧ '.' ∉ rest := by
  obtain ⟨before, after, hname, hbefore⟩ := List.eq_append_cons_of_mem (List.mem_reverse.2 h)
  refine ⟨after.reverse, before.reverse, ?_, by simpa using hbefore⟩
  rw [← List.reverse_reverse name, hname]
  simp

/-- A stem is what stands before the last dot, unless nothing does. -/
theorem stem_append_dot (hrest : '.' ∉ rest) (start : Text) :
    stem (start ++ '.' :: rest) = if start = [] then '.' :: rest else start := by
  -- read from the end, the first dot is the last one of the name
  have hpass : ∀ c ∈ rest.reverse, (c != '.') = true := by
    intro c hc
    rw [List.mem_reverse] at hc
    simpa using fun hdot : c = '.' => hrest (hdot ▸ hc)
  have hdrop : (start ++ '.' :: rest).reverse.dropWhile (· != '.') = '.' :: start.reverse := by
    rw [List.reverse_append, List.reverse_cons, List.append_assoc,
      List.dropWhile_append_of_pos hpass]
    rfl
  rw [stem, hdrop, List.reverse_cons, List.reverse_reverse, List.dropLast_concat]
  cases start with
  | nil => rfl
  | cons c start => rfl

/-- A name without a dot is its own stem. -/
theorem stem_of_not_mem (h : '.' ∉ name) : stem name = name := by
  have hdrop : name.reverse.dropWhile (· != '.') = [] := by
    rw [List.dropWhile_eq_nil_iff]
    intro c hc
    rw [List.mem_reverse] at hc
    simpa using fun hdot : c = '.' => h (hdot ▸ hc)
  rw [stem, hdrop]
  rfl

/-- A name is its own stem, or its last dot ends the stem. -/
theorem stem_cases (name : Text) : stem name = name ∧ '.' ∉ name.tail ∨
    ∃ start rest, start ≠ [] ∧ name = start ++ '.' :: rest ∧ stem name = start := by
  by_cases hdot : '.' ∈ name
  · obtain ⟨start, rest, rfl, hrest⟩ := exists_eq_append_dot hdot
    have hstem := stem_append_dot hrest start
    by_cases hstart : start = []
    · subst hstart
      exact .inl ⟨hstem, hrest⟩
    · rw [if_neg hstart] at hstem
      exact .inr ⟨start, rest, hstart, rfl, hstem⟩
  · exact .inl ⟨stem_of_not_mem hdot, fun h => hdot (List.mem_of_mem_tail h)⟩

/-- A name is its own stem exactly if there is no dot behind its first character. -/
theorem stem_eq_self_iff : stem name = name ↔ '.' ∉ name.tail := by
  rcases stem_cases name with ⟨hself, htail⟩ | ⟨start, rest, hstart, rfl, hstem⟩
  · exact iff_of_true hself htail
  · obtain ⟨c, start, rfl⟩ := List.exists_cons_of_ne_nil hstart
    rw [hstem]
    simp

/-- The stem is what the name begins with. -/
theorem stem_isPrefix (name : Text) : stem name <+: name := by
  rcases stem_cases name with ⟨hself, -⟩ | ⟨start, rest, -, rfl, hstem⟩
  · exact hself.symm ▸ List.prefix_rfl
  · rw [hstem]
    exact List.prefix_append start _

/-- A name has a stem: a dot at its beginning does not cut it off. -/
theorem stem_ne_nil (h : name ≠ []) : stem name ≠ [] := by
  rcases stem_cases name with ⟨hself, -⟩ | ⟨start, rest, hstart, -, hstem⟩
  · rwa [hself]
  · rwa [hstem]

/-! ## The last component of a path -/

/-- The name of something in a directory: one component, which is neither the directory itself nor
the one around it. -/
structure IsName (name : Text) : Prop where
  ne_nil : name ≠ []
  ne_dot : name ≠ ['.']
  ne_dots : name ≠ ['.', '.']
  slash_not_mem : '/' ∉ name

/-- A name is what the path of it alone leads to. -/
theorem IsName.fileName?_eq (h : IsName name) : fileName? name = some name := by
  rw [fileName?, splitOn_of_not_mem h.slash_not_mem]
  simp [h.ne_nil, h.ne_dot, h.ne_dots]

/-- What a path names is no directory. -/
theorem isName_of_fileName? (h : fileName? path = some name) : IsName name := by
  unfold fileName? at h
  dsimp only at h
  split at h
  · cases h
  · rename_i last hlast
    obtain ⟨hmem, hproper⟩ := List.mem_filter.1 (List.mem_of_getLast? hlast)
    split at h
    · cases h
    · rename_i hdots
      obtain rfl := Option.some.inj h
      obtain ⟨hne, hdot⟩ : last ≠ [] ∧ last ≠ ['.'] := by simpa using hproper
      exact ⟨hne, hdot, hdots, fun hslash => (mem_and_ne_of_mem_splitOn hmem hslash).2 rfl⟩

/-- The path ends with a component that stands for a directory. -/
def EndsInDirectory (path : Text) : Prop :=
  ∃ before last, splitOn '/' path = before ++ [last] ∧
    (last = [] ∨ last = ['.'] ∨ last = ['.', '.'])

/-- A name is no path to a directory. -/
theorem IsName.not_endsInDirectory (h : IsName name) : ¬EndsInDirectory name := by
  rintro ⟨before, last, hsplit, hlast⟩
  rw [splitOn_of_not_mem h.slash_not_mem] at hsplit
  rw [← List.nil_append [name]] at hsplit
  obtain ⟨-, hname⟩ := List.append_inj' hsplit rfl
  obtain rfl := List.singleton_inj.1 hname
  rcases hlast with hlast | hlast | hlast
  · exact h.ne_nil hlast
  · exact h.ne_dot hlast
  · exact h.ne_dots hlast

/-- A path that names no file ends in a directory. -/
theorem endsInDirectory_of_fileName? (h : fileName? path = none) : EndsInDirectory path := by
  have hne := splitOn_ne_nil '/' path
  refine ⟨_, _, (List.dropLast_concat_getLast hne).symm, ?_⟩
  generalize hlast : (splitOn '/' path).getLast hne = last
  by_contra hname
  simp only [not_or] at hname
  -- such a component would be the name
  have hfilter : ((splitOn '/' path).filter fun name => !name.isEmpty && name != ['.']).getLast? =
      some last := by
    rw [← List.dropLast_concat_getLast hne, hlast, List.filter_append,
      List.filter_cons_of_pos (by simp [hname.1, hname.2.1])]
    exact List.getLast?_concat
  simp [fileName?, hfilter, hname.2.2] at h

/-! ## The name of a gemtext file -/

/-- The name of the file behind the path is a stem, a dot and an extension. -/
structure Named (path start rest : Text) : Prop where
  fileName?_eq : fileName? path = some (start ++ '.' :: rest)
  start_ne_nil : start ≠ []
  dot_not_mem : '.' ∉ rest

/-- The stem of the file that a path names. -/
theorem Named.fileStem_eq (h : Named path start rest) : fileStem path = start := by
  rw [fileStem, h.fileName?_eq, Option.map_some, stem_append_dot h.dot_not_mem,
    if_neg h.start_ne_nil]
  rfl

/-- Two dots and one dot have no extension that could be replaced, any other name has. -/
theorem withExtension_eq (hne : name ≠ []) (hslash : '/' ∉ name) (extension : Text) :
    withExtension name extension =
      if name = ['.'] ∨ name = ['.', '.'] then name else stem name ++ '.' :: extension := by
  by_cases hdots : name = ['.'] ∨ name = ['.', '.']
  · rw [if_pos hdots]
    rcases hdots with rfl | rfl <;> rfl
  · rw [not_or] at hdots
    rw [if_neg (by simp [hdots]), withExtension,
      IsName.fileName?_eq ⟨hne, hdots.1, hdots.2, hslash⟩]

end Path

open Gemtext.Path

variable {path other start rest : Text}

/-- The stem of the file is cut once more before the extension is added. -/
theorem gemtextName_eq (h : Named path start rest) :
    gemtextName path =
      if start = ['.'] ∨ start = ['.', '.'] then start else stem start ++ ".gmi".toList := by
  have hslash : '/' ∉ start := fun hmem =>
    (isName_of_fileName? h.fileName?_eq).slash_not_mem (List.mem_append_left _ hmem)
  rw [gemtextName, h.fileStem_eq, withExtension_eq h.start_ne_nil hslash]
  rfl

/-- The stem is kept exactly if no dot is behind its first character, and it is more than a dot. -/
theorem gemtextName_eq_append_iff (h : Named path start rest) :
    gemtextName path = start ++ ".gmi".toList ↔ '.' ∉ start.tail ∧ start ≠ ['.'] := by
  rw [gemtextName_eq h]
  split
  · rename_i hdots
    rcases hdots with rfl | rfl <;> simp
  · rename_i hdots
    rw [List.append_cancel_right_eq, stem_eq_self_iff, and_iff_left fun hdot => hdots (.inl hdot)]

/-- The name of a gemtext file has the extension, or is that of a directory. -/
theorem gemtextName_cases (path : Text) :
    IsName (gemtextName path) ∧ gemtextName path = stem (fileStem path) ++ ".gmi".toList ∨
      EndsInDirectory (gemtextName path) ∧ gemtextName path = fileStem path := by
  cases hfile : fileName? path with
  | none =>
    -- no file is named, and the path stays what it is
    have hname : gemtextName path = path := by
      simp [gemtextName, fileStem, withExtension, hfile]
    refine .inr ⟨?_, ?_⟩
    · rw [hname]
      exact endsInDirectory_of_fileName? hfile
    · simp [hname, fileStem, hfile]
  | some name =>
    -- the stem is cut once more, unless it is a directory of dots
    have hname := isName_of_fileName? hfile
    have hstem : fileStem path = stem name := by simp [fileStem, hfile]
    have hne : stem name ≠ [] := stem_ne_nil hname.ne_nil
    have hslash : '/' ∉ stem name := fun h => hname.slash_not_mem ((stem_isPrefix name).mem h)
    rw [gemtextName, hstem, withExtension_eq hne hslash]
    split
    · rename_i hdots
      refine .inr ⟨⟨[], stem name, ?_, .inr hdots⟩, rfl⟩
      exact Text.splitOn_of_not_mem hslash
    · refine .inl ⟨⟨?_, ?_, ?_, ?_⟩, rfl⟩
      · simp
      · intro h
        simpa using congrArg List.length h
      · intro h
        simpa using congrArg List.length h
      · have hcut : '/' ∉ stem (stem name) := fun h => hslash ((stem_isPrefix _).mem h)
        simp [hcut]

/-- Files whose gemtext files have the same name have the same stem, cut once more. -/
theorem stem_fileStem_of_gemtextName (h : gemtextName path = gemtextName other) :
    stem (fileStem path) = stem (fileStem other) := by
  rcases gemtextName_cases path with ⟨hname, hpath⟩ | ⟨hdir, hpath⟩ <;>
    rcases gemtextName_cases other with ⟨hname', hother⟩ | ⟨hdir', hother⟩
  · exact List.append_cancel_right (hpath.symm.trans (h.trans hother))
  · exact absurd (h ▸ hdir') hname.not_endsInDirectory
  · exact absurd (h ▸ hdir) hname'.not_endsInDirectory
  · rw [← hpath, ← hother, h]

end Gemtext
