import Gemtext.Content.Basic

/-!
# Fragments: content grouped into maximal texts

`Content.fragments` groups the atoms of a content: a maximal stretch of characters becomes one
text, and every other atom stands alone.  `Content.ofFragments` goes the other way.  A list of
fragments is in normal form when no text is empty and no two texts are neighbours
(`Fragment.Normal`).

Grouping loses nothing (`Content.ofFragments_fragments`), and its results are exactly the lists in
normal form (`Content.normal_fragments`, `Content.fragments_ofFragments`).
-/

namespace Gemtext

/-- A maximal unit of content. -/
inductive Fragment where
  | text (s : Text)
  | boundary
  | link (line : LinkLine)
  | hardBreak
  | cellEnd
  deriving DecidableEq, Repr

namespace Fragment

/-- The atoms that the fragment stands for. -/
def atoms : Fragment → Content
  | text s => Content.ofText s
  | boundary => [.boundary]
  | link line => [.link line]
  | hardBreak => [.hardBreak]
  | cellEnd => [.cellEnd]

/-- The fragment as it is written when it stands alone. -/
def print : Fragment → Text
  | text s => s
  | link line => line.print
  | hardBreak => ['\n']
  | boundary => []
  | cellEnd => []

/-- Whether the fragment is a text. -/
def isText : Fragment → Bool
  | text _ => true
  | _ => false

/-- The normal form of a list of fragments: no text is empty, and no two texts are neighbours. -/
def Normal : List Fragment → Prop
  | [] => True
  | fragment :: rest =>
    fragment ≠ text [] ∧ ¬(fragment.isText ∧ rest.head?.any isText) ∧ Normal rest

end Fragment

namespace Content

/-- The content that the fragments stand for, one after the other. -/
def ofFragments (fragments : List Fragment) : Content :=
  fragments.flatMap Fragment.atoms

/-- The content as fragments, with each maximal stretch of characters as one text. -/
def fragments : Content → List Fragment
  | [] => []
  | .char c :: rest =>
    match fragments rest with
    | .text s :: more => .text (c :: s) :: more
    | more => .text [c] :: more
  | .boundary :: rest => .boundary :: fragments rest
  | .link line :: rest => .link line :: fragments rest
  | .hardBreak :: rest => .hardBreak :: fragments rest
  | .cellEnd :: rest => .cellEnd :: fragments rest

/-- The content with `f` applied to each maximal stretch of characters. -/
def mapText (f : Text → Text) (c : Content) : Content :=
  c.fragments.flatMap fun
    | .text s => ofText (f s)
    | fragment => fragment.atoms

@[simp]
theorem ofFragments_cons (fragment : Fragment) (rest : List Fragment) :
    ofFragments (fragment :: rest) = fragment.atoms ++ ofFragments rest := rfl

/-- Grouping a character in front of a content either extends the first text or begins one. -/
theorem fragments_char (x : Char) (c : Content) :
    (∃ s more, fragments c = .text s :: more ∧ fragments (.char x :: c) = .text (x :: s) :: more) ∨
      ((fragments c).head?.any Fragment.isText = false ∧
        fragments (.char x :: c) = .text [x] :: fragments c) := by
  rw [fragments]
  split
  next s more h => exact .inl ⟨s, more, h, rfl⟩
  next h =>
    refine .inr ⟨?_, rfl⟩
    cases hc : fragments c with
    | nil => rfl
    | cons fragment more =>
      cases fragment with
      | text s => exact absurd hc (h s more)
      | _ => rfl

/-- Grouping keeps every atom. -/
theorem ofFragments_fragments (c : Content) : ofFragments (fragments c) = c := by
  induction c with
  | nil => rfl
  | cons atom rest ih =>
    cases atom with
    | char x =>
      rcases fragments_char x rest with ⟨s, more, h, hx⟩ | ⟨_, hx⟩
      · rw [h, ofFragments_cons] at ih
        rw [hx, ofFragments_cons, ← ih]
        rfl
      · rw [hx, ofFragments_cons, ih]
        rfl
    | _ => simp [fragments, Fragment.atoms, ih]

/-- Grouping gives the normal form. -/
theorem normal_fragments (c : Content) : Fragment.Normal (fragments c) := by
  induction c with
  | nil => trivial
  | cons atom rest ih =>
    cases atom with
    | char x =>
      rcases fragments_char x rest with ⟨s, more, h, hx⟩ | ⟨h, hx⟩
      · rw [h] at ih
        rw [hx]
        exact ⟨by simp, ih.2.1, ih.2.2⟩
      · rw [hx]
        exact ⟨by simp, by simp [h], ih⟩
    | _ => exact ⟨nofun, nofun, ih⟩

/-- A nonempty text in front of a content that does not begin with one stays a fragment. -/
theorem fragments_ofText_append {s : Text} (hs : s ≠ []) {c : Content}
    (hc : (fragments c).head?.any Fragment.isText = false) :
    fragments (ofText s ++ c) = .text s :: fragments c := by
  induction s with
  | nil => exact absurd rfl hs
  | cons x xs ih =>
    cases xs with
    | nil =>
      rcases fragments_char x c with ⟨s, more, h, _⟩ | ⟨_, hx⟩
      · simp [h, Fragment.isText] at hc
      · exact hx
    | cons y ys =>
      rcases fragments_char x (ofText (y :: ys) ++ c) with ⟨s, more, h, hx⟩ | ⟨h, _⟩
      · rw [ih (by simp)] at h
        injection h with h hmore
        injection h with h
        subst h hmore
        exact hx
      · rw [ih (by simp)] at h
        cases h

/-- Grouping gives back a list of fragments that is in normal form. -/
theorem fragments_ofFragments {fs : List Fragment} (h : Fragment.Normal fs) :
    fragments (ofFragments fs) = fs := by
  induction fs with
  | nil => rfl
  | cons fragment rest ih =>
    obtain ⟨hne, hapart, hrest⟩ := h
    cases fragment with
    | text s =>
      have hs : s ≠ [] := fun h => hne (by rw [h])
      have hhead : (fragments (ofFragments rest)).head?.any Fragment.isText = false := by
        rw [ih hrest]
        simpa [Fragment.isText] using hapart
      rw [ofFragments_cons, Fragment.atoms, fragments_ofText_append hs hhead, ih hrest]
    | _ => simp [Fragment.atoms, fragments, ih hrest]

end Content

end Gemtext
