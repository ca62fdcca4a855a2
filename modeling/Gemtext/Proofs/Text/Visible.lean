import Gemtext.Proofs.Text.Lines

/-!
# What is visible of a text

`Text.visible` deletes the blank characters of a text.  Trimming and cutting into lines touch no
other characters, so they change nothing visible.
-/

namespace Gemtext

namespace Text

/-- The characters of the text that are not blank, in order. -/
def visible (s : Text) : Text :=
  s.filter fun c => !isBlank c

@[simp]
theorem visible_nil : visible [] = [] := rfl

@[simp]
theorem visible_append (s t : Text) : visible (s ++ t) = visible s ++ visible t :=
  List.filter_append s t

@[simp]
theorem visible_reverse (s : Text) : visible s.reverse = (visible s).reverse :=
  List.filter_reverse

theorem visible_cons (c : Char) (s : Text) : visible (c :: s) = visible [c] ++ visible s :=
  visible_append [c] s

/-- Blank characters are all that is not visible. -/
theorem visible_of_isBlank {s : Text} (h : ∀ c ∈ s, isBlank c) : visible s = [] :=
  List.filter_eq_nil_iff.2 fun c hc => by simp [h c hc]

@[simp]
theorem visible_newline (s : Text) : visible ('\n' :: s) = visible s := rfl

/-- Dropping blank characters in front changes nothing visible. -/
theorem visible_dropWhile {p : Char → Bool} (hp : ∀ c, p c → isBlank c) (s : Text) :
    visible (s.dropWhile p) = visible s := by
  obtain ⟨dropped, hs, hdropped⟩ := List.exists_append_dropWhile p s
  conv => rhs; rw [hs]
  rw [visible_append, visible_of_isBlank fun c hc => hp c (hdropped c hc), List.nil_append]

theorem visible_trimStart (s : Text) : visible s.trimStart = visible s :=
  visible_dropWhile (fun _ h => h) s

theorem visible_trimEnd (s : Text) : visible s.trimEnd = visible s := by
  rw [trimEnd, dropEndWhile, visible_reverse, visible_dropWhile fun _ h => h, visible_reverse,
    List.reverse_reverse]

/-- Trimming leaves nothing of a blank text only. -/
theorem trim_eq_nil_iff {s : Text} : s.trim = [] ↔ s.allBlank := by
  constructor
  · intro h
    have hvisible : visible s = [] := by
      rw [← visible_trimStart, ← visible_trimEnd, ← trim, h, visible_nil]
    rw [allBlank, List.all_eq_true]
    intro c hc
    simpa using List.filter_eq_nil_iff.1 hvisible c hc
  · intro h
    exact trim_append_blank (List.all_eq_true.1 h) []

/-- The visible characters of the pieces are those of the whole. -/
theorem flatMap_visible (pieces : List Text) : pieces.flatMap visible = visible pieces.flatten := by
  induction pieces with
  | nil => rfl
  | cons piece rest ih => rw [List.flatMap_cons, ih, List.flatten_cons, visible_append]

/-- A character that is not blank is visible wherever it stands. -/
theorem count_visible {c : Char} (hc : isBlank c = false) (s : Text) :
    (visible s).count c = s.count c :=
  List.count_filter (by simp [hc])

/-- Lines show what they show one by one, since a newline is blank. -/
theorem visible_joinWith_newline (lines : List Text) :
    visible (joinWith ['\n'] lines) = lines.flatMap visible := by
  induction lines with
  | nil => rfl
  | cons line rest ih =>
    cases rest with
    | nil => simp [joinWith]
    | cons next more =>
      rw [joinWith_cons (List.cons_ne_nil next more), visible_append, visible_append, ih]
      simp

end Text

end Gemtext
