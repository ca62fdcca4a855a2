import Gemtext.Proofs.Content.Buffer
import Gemtext.Proofs.Content.Marks

/-!
# Contents that are text

A content made of text is cut, trimmed and joined as the text is: each operation on contents has its
namesake on texts (`trim_ofText`, `lines_ofText`, `joinWith_map_ofText`).

A content is `Prose` if it holds nothing but characters and hard breaks, as the content of a
paragraph does that has no links.  Once its hard breaks are newlines, it is the text that a reader
sees (`Prose.flattenBlocks_eq`, `Prose.resolveHardBreaks_eq`).
-/

namespace Gemtext

namespace Content

variable {c d : Content}

/-! ## Texts -/

/-- The content of a text is blank as the text is. -/
theorem isBlank_ofText (s : Text) : (ofText s).isBlank = s.allBlank :=
  List.all_map

theorem trimStart_ofText (s : Text) : (ofText s).trimStart = ofText s.trimStart :=
  List.dropWhile_map

/-- A text is trimmed as its content is. -/
theorem trimEnd_ofText (s : Text) : (ofText s).trimEnd = ofText s.trimEnd := by
  have h := trimEnd_append_ofText [] s
  rw [List.nil_append] at h
  rw [h]
  split
  · rename_i hnil
    rw [hnil]
    rfl
  · rfl

theorem trim_ofText (s : Text) : (ofText s).trim = ofText s.trim := by
  rw [trim, trimStart_ofText, trimEnd_ofText, ← Text.trim]

/-- The line breaks of a text are read as those of its content. -/
theorem unifyNewlines_ofText (s : Text) : (ofText s).unifyNewlines = ofText s.unifyNewlines := by
  have h := unifyNewlines_ofText_append (c := []) nofun s
  simpa [unifyNewlines] using h

/-- The lines of the content of a text are those of the text. -/
theorem lines_ofText (s : Text) : (ofText s).lines = s.lines.map ofText := by
  rw [lines, Text.lines, unifyNewlines_ofText, splitOn_ofText]
  generalize Text.splitOn '\n' s.unifyNewlines = pieces
  rw [List.getLast?_map]
  -- an empty last line is no line, on either side
  cases hlast : pieces.getLast? with
  | none => rfl
  | some piece =>
    cases piece with
    | nil => exact List.map_dropLast.symm
    | cons x rest => rfl

/-- Texts are joined as their contents are. -/
theorem joinWith_map_ofText (sep : Text) (pieces : List Text) :
    joinWith sep (pieces.map ofText) = ofText (Text.joinWith sep pieces) := by
  induction pieces with
  | nil => rfl
  | cons piece rest ih =>
    by_cases hrest : rest = []
    · subst hrest
      rfl
    · rw [List.map_cons, joinWith_cons (by simpa using hrest), ih, Text.joinWith_cons hrest,
        ofText_append, ofText_append]

/-- Lines are trimmed as their contents are. -/
theorem map_trim_ofText (pieces : List Text) :
    (pieces.map ofText).map trim = (pieces.map Text.trim).map ofText := by
  rw [List.map_map, List.map_map]
  exact List.map_congr_left fun piece _ => trim_ofText piece

/-- The blank lines among texts are those among their contents. -/
theorem filter_isBlank_ofText (pieces : List Text) :
    (pieces.map ofText).filter (!·.isBlank) = (pieces.filter (!·.allBlank)).map ofText := by
  rw [List.filter_map]
  congr 1
  exact List.filter_congr fun piece _ => congrArg not (isBlank_ofText piece)

theorem visibleText_append (c d : Content) :
    (c ++ d).visibleText = c.visibleText ++ d.visibleText :=
  List.flatMap_append

/-- All of a text is visible. -/
theorem visibleText_ofText (s : Text) : (ofText s).visibleText = s := by
  rw [visibleText, ofText, List.flatMap_map]
  exact List.flatMap_singleton' s

/-! ## Prose -/

/-- The content holds nothing but characters and hard breaks. -/
def Prose (c : Content) : Prop :=
  ∀ atom ∈ c, (∃ x, atom = .char x) ∨ atom = .hardBreak

namespace Prose

theorem nil : Prose [] := nofun

theorem append (hc : Prose c) (hd : Prose d) : Prose (c ++ d) :=
  List.forall_mem_append.2 ⟨hc, hd⟩

theorem ofText (s : Text) : Prose (Content.ofText s) := fun atom hatom => by
  obtain ⟨x, -, rfl⟩ := List.mem_map.1 hatom
  exact .inl ⟨x, rfl⟩

theorem trim (hc : Prose c) : Prose c.trim :=
  fun atom hatom => hc atom (mem_of_mem_trim hatom)

/-- Prose has no paragraphs. -/
theorem boundary_not_mem (hc : Prose c) : .boundary ∉ c := fun h => by
  obtain ⟨x, hx⟩ | hx := hc _ h
  all_goals cases hx

/-- A function of the atoms that reads characters and hard breaks as they are seen. -/
theorem map_eq (hc : Prose c) {f : Atom → Atom} (hchar : ∀ x, f (.char x) = .char x)
    (hbreak : f .hardBreak = .char '\n') : c.map f = Content.ofText c.visibleText := by
  induction c with
  | nil => rfl
  | cons atom rest ih =>
    obtain ⟨hatom, hrest⟩ := List.forall_mem_cons.1 hc
    rw [List.map_cons, ih hrest]
    rcases hatom with ⟨x, rfl⟩ | rfl
    · rw [hchar]
      rfl
    · rw [hbreak]
      rfl

/-- Hard breaks are flattened to the newlines that they are seen as. -/
theorem flattenBlocks_eq (hc : Prose c) : c.flattenBlocks = Content.ofText c.visibleText :=
  hc.map_eq (fun _ => rfl) rfl

/-- Hard breaks are resolved to the newlines that they are seen as. -/
theorem resolveHardBreaks_eq (hc : Prose c) :
    c.resolveHardBreaks = Content.ofText c.visibleText :=
  hc.map_eq (fun _ => if_neg nofun) (if_pos rfl)

end Prose

end Content

end Gemtext
