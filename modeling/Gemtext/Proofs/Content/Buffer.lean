import Gemtext.Proofs.Content.Lines
import Gemtext.Proofs.Text.Lines
import Mathlib.Data.List.Chain

/-!
# Buffers of fragments

A buffer gathers content fragment by fragment, and its operations work on the fragments where they
stand: a text that is put at an end extends the text that is there already, texts are trimmed or
dropped at the ends, and marks are filtered.  The same operations are defined on contents, atom by
atom.  On the fragments of a content, an operation gives the fragments of what its namesake makes
of the atoms:

* `pushText_fragments`, `push_fragments`, `append_fragments`, `collect_eq_fragments`
* `prependText_fragments`, `wrapped_fragments`
* `linkLines_fragments`, `flattenBlocks_fragments`, `mapText_fragments`
* `lines_fragments`, `cells_fragments`, `joinWith_fragments`
* `trimStart_fragments`, `trimEnd_fragments`

For an operation that rebuilds the buffer this follows from `push_fragments`; for one that edits it
in place, the result has the atoms and is in normal form.
-/

namespace Gemtext

namespace Fragment

/-- A newline in place of a paragraph boundary or a hard break. -/
def flat : Fragment → Fragment
  | boundary => text ['\n']
  | hardBreak => text ['\n']
  | fragment => fragment

/-- A mark stands for one atom, which is not blank. -/
theorem exists_atoms_eq {mark : Fragment} (h : mark.isText = false) :
    ∃ atom : Atom, mark.atoms = [atom] ∧ atom.isBlank = false := by
  cases mark with
  | text s => cases h
  | _ => exact ⟨_, rfl, rfl⟩

/-- Fragments that do not begin with a text begin with a mark, if there are any. -/
theorem eq_nil_or_mark_cons {fs : List Fragment} (h : ∀ s rest, fs = text s :: rest → False) :
    fs = [] ∨ ∃ mark rest, fs = mark :: rest ∧ mark.isText = false := by
  cases fs with
  | nil => exact .inl rfl
  | cons mark rest =>
    cases mark with
    | text s => exact (h s rest rfl).elim
    | _ => exact .inr ⟨_, rest, rfl, rfl⟩

/-! ## The normal form -/

variable {fs others : List Fragment}

/-- In normal form no text is empty, and one of two neighbours is no text. -/
theorem normal_iff_isChain :
    Normal fs ↔ text [] ∉ fs ∧ fs.IsChain fun f g => ¬(f.isText ∧ g.isText) := by
  induction fs with
  | nil => simp [Normal]
  | cons fragment rest ih =>
    have hhead : ¬(fragment.isText ∧ rest.head?.any isText) ↔
        ∀ g ∈ rest.head?, ¬(fragment.isText ∧ g.isText) := by
      cases rest <;> simp
    rw [Normal, ih, hhead, List.isChain_cons, List.mem_cons, not_or, ne_comm]
    tauto

/-- Two lists in normal form make one, unless a text stands on both sides of the seam. -/
theorem normal_append_iff :
    Normal (fs ++ others) ↔ Normal fs ∧ Normal others ∧
      ∀ f ∈ fs.getLast?, ∀ g ∈ others.head?, ¬(f.isText ∧ g.isText) := by
  simp only [normal_iff_isChain, List.mem_append, not_or, List.isChain_append]
  tauto

/-- The normal form says the same from either end. -/
theorem normal_reverse_iff : Normal fs.reverse ↔ Normal fs := by
  simp only [normal_iff_isChain, List.mem_reverse, List.isChain_reverse, and_comm]

/-- Marks alone are in normal form. -/
theorem normal_of_forall_not_isText (h : ∀ f ∈ fs, f.isText = false) : Normal fs := by
  induction fs with
  | nil => trivial
  | cons fragment rest ih =>
    have hfragment := h fragment List.mem_cons_self
    refine ⟨?_, by simp [hfragment], ih fun f hf => h f (List.mem_cons_of_mem _ hf)⟩
    rintro rfl
    simp [isText] at hfragment

end Fragment

namespace Content

variable {c : Content}

/-! ## Fragments and atoms -/

@[simp]
theorem ofFragments_append (fs others : List Fragment) :
    ofFragments (fs ++ others) = ofFragments fs ++ ofFragments others :=
  List.flatMap_append

@[simp]
theorem ofFragments_nil : ofFragments [] = [] := rfl

/-- Fragments in normal form are those of their atoms. -/
theorem eq_fragments_of_normal {fs : List Fragment} (h : Fragment.Normal fs)
    (hc : ofFragments fs = c) : fs = fragments c := by
  rw [← hc, fragments_ofFragments h]

/-- Only the empty content has no fragments. -/
theorem fragments_eq_nil_iff : fragments c = [] ↔ c = [] := by
  refine ⟨fun h => ?_, fun h => h ▸ rfl⟩
  rw [← ofFragments_fragments c, h]
  rfl

/-- What follows a text in normal form is a mark. -/
theorem head?_ofFragments_ne {s : Text} {rest : List Fragment} {x : Char}
    (h : ¬((Fragment.text s).isText ∧ rest.head?.any Fragment.isText)) :
    (ofFragments rest).head? ≠ some (.char x) := by
  cases rest with
  | nil => simp
  | cons next more =>
    cases next with
    | text t => exact (h ⟨rfl, rfl⟩).elim
    | _ => simp [Fragment.atoms]

/-! ## Texts at the ends -/

@[simp]
theorem ofText_append (s t : Text) : ofText (s ++ t) = ofText s ++ ofText t :=
  List.map_append

theorem ofText_reverse (s : Text) : ofText s.reverse = (ofText s).reverse :=
  List.map_reverse

/-- Trimming goes on behind a text of which nothing is left. -/
theorem trimStart_ofText_append (s : Text) (c : Content) :
    trimStart (ofText s ++ c) =
      if s.trimStart = [] then c.trimStart else ofText s.trimStart ++ c := by
  have htext : (ofText s).dropWhile Atom.isBlank = ofText s.trimStart := List.dropWhile_map
  rw [trimStart, List.dropWhile_append, htext]
  simp [ofText, trimStart]

/-- The same at the end. -/
theorem trimEnd_append_ofText (c : Content) (s : Text) :
    trimEnd (c ++ ofText s) =
      if s.trimEnd = [] then c.trimEnd else c ++ ofText s.trimEnd := by
  have hcontent (c : Content) : c.trimEnd = (trimStart c.reverse).reverse := rfl
  have htext : s.trimEnd = (Text.trimStart s.reverse).reverse := rfl
  -- the end is the beginning of what is turned round
  rw [hcontent, List.reverse_append, ← ofText_reverse, trimStart_ofText_append, htext, hcontent]
  simp only [List.reverse_eq_nil_iff]
  split
  · rfl
  · rw [List.reverse_append, List.reverse_reverse, ofText_reverse]

/-- A text in front of something else than a newline is read by itself. -/
theorem unifyNewlines_ofText_append (hc : c.head? ≠ some (.char '\n')) (s : Text) :
    unifyNewlines (ofText s ++ c) = ofText (Text.unifyNewlines s) ++ unifyNewlines c := by
  fun_induction Text.unifyNewlines s with
  | case1 => rfl
  | case2 rest ih =>
    show unifyNewlines (.char '\r' :: .char '\n' :: (ofText rest ++ c)) = _
    rw [unifyNewlines, ih]
    rfl
  | case3 x rest hx ih =>
    show unifyNewlines (.char x :: (ofText rest ++ c)) = _
    rw [unifyNewlines, ih]
    · rfl
    · -- the newline behind a carriage return would stand in the text or behind it
      intro more hreturn hnewline
      cases rest with
      | nil => exact hc (by rw [show c = _ from hnewline]; rfl)
      | cons y rest =>
        obtain ⟨hy, -⟩ := List.cons.inj hnewline
        exact hx rest (Atom.char.inj hreturn) (by rw [Atom.char.inj hy])

/-- A mark is no part of a line break. -/
theorem unifyNewlines_atoms_append {fragment : Fragment} (h : fragment.isText = false)
    (c : Content) :
    unifyNewlines (fragment.atoms ++ c) = fragment.atoms ++ unifyNewlines c := by
  cases fragment with
  | text s => cases h
  | _ => simp [Fragment.atoms, unifyNewlines]

/-- The cells are what stands in front of the last cell end, cut at the cell ends. -/
theorem cells_eq_dropLast (c : Content) : cells c = (splitOn .cellEnd c).dropLast := by
  induction c with
  | nil => rfl
  | cons atom rest ih =>
    obtain ⟨piece, pieces, hsplit⟩ := List.exists_cons_of_ne_nil (List.splitOn_ne_nil .cellEnd rest)
    rw [← splitOn_eq_list] at hsplit
    rw [cells, splitOn, ih, hsplit]
    -- a cell end begins a cell, and every other atom belongs to the first one
    by_cases hatom : atom = .cellEnd
    · simp [hatom]
    · cases pieces <;> simp [hatom]

/-- What is joined in front of the first piece stands in front of all. -/
theorem joinWith_append_cons (sep : Text) (c d : Content) (rest : List Content) :
    joinWith sep ((c ++ d) :: rest) = c ++ joinWith sep (d :: rest) := by
  cases rest with
  | nil => rfl
  | cons next more => simp [joinWith]

end Content

/-- Fragments that are gathered one behind the other. -/
abbrev Buffer := List Fragment

namespace Buffer

open Content Fragment

/-! ## Operations on buffers -/

/-- Put a text behind the buffer.  A last text is extended, and an empty text leaves no trace. -/
def pushText (b : Buffer) (s : Text) : Buffer :=
  if s = [] then b
  else
    match b.getLast? with
    | some (.text last) => b.dropLast ++ [.text (last ++ s)]
    | _ => b ++ [.text s]

/-- Put a fragment behind the buffer. -/
def push (b : Buffer) : Fragment → Buffer
  | .text s => b.pushText s
  | mark => b ++ [mark]

/-- Put the fragments of another buffer behind the buffer, one by one. -/
def append (b other : Buffer) : Buffer :=
  other.foldl push b

/-- Gather fragments into a new buffer. -/
def collect (fs : List Fragment) : Buffer :=
  append [] fs

/-- Put a text in front of the buffer. -/
def prependText (s : Text) (b : Buffer) : Buffer :=
  if s = [] then b
  else
    match b with
    | .text first :: rest => .text (s ++ first) :: rest
    | _ => .text s :: b

/-- The buffer with text put before and after it. -/
def wrapped (b : Buffer) (before after : Text) : Buffer :=
  (b.prependText before).pushText after

/-- The link lines of the buffer, in order. -/
def linkLines (b : Buffer) : Buffer :=
  b.filter fun
    | .link _ => true
    | _ => false

/-- The buffer with newlines in place of paragraph boundaries and hard breaks. -/
def flattenBlocks (b : Buffer) : Buffer :=
  collect (b.map flat)

/-- The buffer with `f` applied to each text. -/
def mapText (f : Text → Text) (b : Buffer) : Buffer :=
  collect <| b.map fun
    | .text s => .text (f s)
    | fragment => fragment

/-- A buffer that is being cut into pieces: those that are cut off, and the last one. -/
structure Cutting where
  done : List Buffer
  current : Buffer

namespace Cutting

/-- Put a fragment behind the last piece. -/
def push (p : Cutting) (fragment : Fragment) : Cutting :=
  { p with current := p.current.push fragment }

/-- Cut off the last piece. -/
def cut (p : Cutting) : Cutting :=
  ⟨p.done ++ [p.current], []⟩

/-- Put texts behind, with a cut between each two. -/
def pushTexts (p : Cutting) : List Text → Cutting
  | [] => p
  | [s] => p.push (.text s)
  | s :: rest => pushTexts (p.push (.text s)).cut rest

/-- Put a fragment behind, with a cut at each newline in it. -/
def pushLines (p : Cutting) : Fragment → Cutting
  | .text s => p.pushTexts (Text.splitOn '\n' (Text.unifyNewlines s))
  | mark => p.push mark

/-- Put a fragment of a table row behind, or cut at the end of a cell. -/
def pushCell (p : Cutting) : Fragment → Cutting
  | .cellEnd => p.cut
  | fragment => p.push fragment

end Cutting

/-- The lines of the buffer.  A last line with nothing on it is no line. -/
def lines (b : Buffer) : List Buffer :=
  let p := b.foldl Cutting.pushLines ⟨[], []⟩
  if p.current = [] then p.done else p.done ++ [p.current]

/-- The cells of a table row.  Anything after the last cell end belongs to no cell. -/
def cells (b : Buffer) : List Buffer :=
  (b.foldl Cutting.pushCell ⟨[], []⟩).done

/-- The pieces in order, with the text `sep` between each two. -/
def joinWith (sep : Text) : List Buffer → Buffer
  | [] => []
  | first :: rest => rest.foldl (fun b piece => (b.pushText sep).append piece) (append [] first)

/-- Trim the texts at the beginning, up to the first of which something is left. -/
def trimTexts (trim : Text → Text) : Buffer → Buffer
  | .text s :: rest => if trim s = [] then trimTexts trim rest else .text (trim s) :: rest
  | b => b

/-- Drop leading blank characters. -/
def trimStart (b : Buffer) : Buffer :=
  trimTexts Text.trimStart b

/-- Drop trailing blank characters. -/
def trimEnd (b : Buffer) : Buffer :=
  (trimTexts Text.trimEnd b.reverse).reverse

/-- Drop blank characters at both ends. -/
def trim (b : Buffer) : Buffer :=
  trimEnd (trimStart b)

/-! ## Pushing -/

/-- The atoms of a text that is pushed stand behind the others. -/
theorem ofFragments_pushText (b : Buffer) (s : Text) :
    ofFragments (b.pushText s) = ofFragments b ++ ofText s := by
  rw [pushText]
  split
  · rename_i hs
    simp [hs, ofText]
  · split
    · rename_i last hlast
      obtain ⟨front, rfl⟩ := List.getLast?_eq_some_iff.1 hlast
      simp [Fragment.atoms]
    · simp [Fragment.atoms]

/-- Pushing a text keeps the normal form. -/
theorem normal_pushText {b : Buffer} (h : Normal b) (s : Text) : Normal (b.pushText s) := by
  rw [pushText]
  split
  · exact h
  · rename_i hs
    split
    · rename_i last hlast
      obtain ⟨front, rfl⟩ := List.getLast?_eq_some_iff.1 hlast
      -- a longer text has the same neighbour
      obtain ⟨hfront, -, hseam⟩ := normal_append_iff.1 h
      rw [List.dropLast_concat, normal_append_iff]
      exact ⟨hfront, ⟨by simp [hs], by simp, trivial⟩, by simpa [isText] using hseam⟩
    · rename_i hlast
      -- the neighbour is no text
      refine normal_append_iff.2 ⟨h, ⟨by simpa using hs, by simp, trivial⟩, ?_⟩
      intro f hf g _ htexts
      cases f with
      | text last => exact hlast last hf
      | _ => simp [isText] at htexts

/-- A text is pushed as its characters are appended. -/
theorem pushText_fragments (c : Content) (s : Text) :
    pushText (fragments c) s = fragments (c ++ ofText s) := by
  refine eq_fragments_of_normal (normal_pushText (normal_fragments c) s) ?_
  rw [ofFragments_pushText, ofFragments_fragments]

/-- A fragment is pushed as its atoms are appended. -/
theorem push_fragments (c : Content) (fragment : Fragment) :
    push (fragments c) fragment = fragments (c ++ fragment.atoms) := by
  cases fragment with
  | text s => exact pushText_fragments c s
  | _ =>
    -- a mark may stand next to anything
    refine eq_fragments_of_normal (normal_append_iff.2 ⟨normal_fragments c, ?_, ?_⟩) ?_
    · exact normal_of_forall_not_isText (by simp [isText])
    · simp [isText]
    · simp [push, ofFragments_fragments]

/-- Appending pushes the atoms of the other buffer. -/
theorem append_fragments (c : Content) (other : Buffer) :
    append (fragments c) other = fragments (c ++ ofFragments other) := by
  -- what was pushed already belongs to the content
  induction other generalizing c with
  | nil => rw [append, List.foldl_nil, ofFragments_nil, List.append_nil]
  | cons fragment rest ih =>
    rw [append, List.foldl_cons, push_fragments, ← append, ih, ofFragments_cons, List.append_assoc]

/-- Collected fragments are those of their atoms, however they were split. -/
theorem collect_eq_fragments (fs : List Fragment) : collect fs = fragments (ofFragments fs) :=
  append_fragments [] fs

/-! ## Text in front -/

/-- The atoms of a text that is put in front stand before the others. -/
theorem ofFragments_prependText (s : Text) (b : Buffer) :
    ofFragments (b.prependText s) = ofText s ++ ofFragments b := by
  unfold prependText
  split
  · rename_i hs
    simp [hs, ofText]
  · split
    · simp [Fragment.atoms]
    · simp [Fragment.atoms]

/-- Putting a text in front keeps the normal form. -/
theorem normal_prependText {b : Buffer} (h : Normal b) (s : Text) : Normal (b.prependText s) := by
  unfold prependText
  split
  · exact h
  · rename_i hs
    split
    · exact ⟨by simp [hs], h.2⟩
    · rename_i hfirst
      refine ⟨by simpa using hs, ?_, h⟩
      -- the neighbour is a mark
      obtain rfl | ⟨mark, rest, rfl, hmark⟩ := eq_nil_or_mark_cons hfirst
      · simp
      · simp [hmark]

theorem prependText_fragments (s : Text) (c : Content) :
    prependText s (fragments c) = fragments (ofText s ++ c) := by
  refine eq_fragments_of_normal (normal_prependText (normal_fragments c) s) ?_
  rw [ofFragments_prependText, ofFragments_fragments]

/-- A buffer is wrapped as its content is. -/
theorem wrapped_fragments (c : Content) (before after : Text) :
    wrapped (fragments c) before after = fragments (c.wrapped before after) := by
  rw [wrapped, prependText_fragments, pushText_fragments]
  rfl

/-! ## Choosing and replacing fragments -/

/-- The link lines of a buffer are those of its atoms. -/
theorem ofFragments_linkLines (b : Buffer) :
    ofFragments b.linkLines = (ofFragments b).linkLines := by
  induction b with
  | nil => rfl
  | cons fragment rest ih =>
    rw [ofFragments_cons, linkLines_append, ← ih]
    cases fragment with
    | text s =>
      have hatoms : (Fragment.text s).atoms.linkLines = [] := filter_ofText (fun _ => rfl) s
      rw [hatoms]
      rfl
    | _ => rfl

/-- Link lines stand next to each other as marks do. -/
theorem linkLines_fragments (c : Content) :
    linkLines (fragments c) = fragments c.linkLines := by
  refine eq_fragments_of_normal (normal_of_forall_not_isText fun f hf => ?_) ?_
  · have hlink := (List.mem_filter.1 hf).2
    cases f with
    | text s => simp at hlink
    | _ => rfl
  · rw [ofFragments_linkLines, ofFragments_fragments]

/-- Boundaries and hard breaks that become newlines join the texts around them. -/
theorem flattenBlocks_fragments (c : Content) :
    flattenBlocks (fragments c) = fragments c.flattenBlocks := by
  have hatoms (b : Buffer) : (ofFragments b).flattenBlocks = ofFragments (b.map flat) := by
    induction b with
    | nil => rfl
    | cons fragment rest ih =>
      rw [ofFragments_cons, flattenBlocks_append, ih, List.map_cons, ofFragments_cons]
      cases fragment with
      | text s => simp [flat, Fragment.atoms, ofText, Content.flattenBlocks]
      | _ => rfl
  rw [flattenBlocks, collect_eq_fragments, ← hatoms, ofFragments_fragments]

/-- Texts are replaced one by one, and what becomes empty leaves no trace. -/
theorem mapText_fragments (f : Text → Text) (c : Content) :
    mapText f (fragments c) = fragments (c.mapText f) := by
  rw [mapText, collect_eq_fragments, Content.mapText, ofFragments, List.flatMap_map]
  congr 2
  funext fragment
  cases fragment <;> rfl

/-! ## Trimming -/

/-- Trimming texts keeps the normal form, whatever it leaves of them. -/
theorem normal_trimTexts (trim : Text → Text) {b : Buffer} (h : Normal b) :
    Normal (trimTexts trim b) := by
  fun_induction trimTexts trim b with
  | case1 s rest _ ih => exact ih h.2.2
  | case2 s rest hs => exact ⟨by simpa using hs, h.2⟩
  | case3 b _ => exact h

/-- Trimming a buffer trims its atoms. -/
theorem ofFragments_trimStart (b : Buffer) :
    ofFragments b.trimStart = (ofFragments b).trimStart := by
  rw [trimStart]
  fun_induction trimTexts Text.trimStart b with
  | case1 s rest hs ih =>
    -- nothing is left of the first text
    rw [ih, ofFragments_cons, Fragment.atoms, trimStart_ofText_append, if_pos hs]
  | case2 s rest hs =>
    -- something is left of it
    rw [ofFragments_cons, ofFragments_cons, Fragment.atoms, Fragment.atoms,
      trimStart_ofText_append, if_neg hs]
  | case3 b hfirst =>
    -- a mark stands first, and it is not blank
    obtain rfl | ⟨mark, rest, rfl, hmark⟩ := eq_nil_or_mark_cons hfirst
    · rfl
    · obtain ⟨atom, hatoms, hblank⟩ := exists_atoms_eq hmark
      simp [Content.trimStart, hatoms, hblank]

theorem trimStart_fragments (c : Content) :
    trimStart (fragments c) = fragments c.trimStart := by
  refine eq_fragments_of_normal (normal_trimTexts _ (normal_fragments c)) ?_
  rw [ofFragments_trimStart, ofFragments_fragments]

/-- On the reversed buffer, the first texts are the last ones of the content. -/
theorem ofFragments_reverse_trimTexts (b : Buffer) :
    ofFragments (trimTexts Text.trimEnd b).reverse = (ofFragments b.reverse).trimEnd := by
  fun_induction trimTexts Text.trimEnd b with
  | case1 s rest hs ih =>
    rw [ih, List.reverse_cons, ofFragments_append, ofFragments_cons, ofFragments_nil,
      List.append_nil, Fragment.atoms, trimEnd_append_ofText, if_pos hs]
  | case2 s rest hs =>
    simp only [List.reverse_cons, ofFragments_append, ofFragments_cons, ofFragments_nil,
      List.append_nil, Fragment.atoms, trimEnd_append_ofText, if_neg hs]
  | case3 b hfirst =>
    -- a mark stands last, and it is not blank
    obtain rfl | ⟨mark, rest, rfl, hmark⟩ := eq_nil_or_mark_cons hfirst
    · rfl
    · obtain ⟨atom, hatoms, hblank⟩ := exists_atoms_eq hmark
      simp [Content.trimEnd, hatoms, hblank]

theorem trimEnd_fragments (c : Content) : trimEnd (fragments c) = fragments c.trimEnd := by
  refine eq_fragments_of_normal (normal_reverse_iff.2 (normal_trimTexts _ ?_)) ?_
  · exact normal_reverse_iff.2 (normal_fragments c)
  · rw [trimEnd, ofFragments_reverse_trimTexts, List.reverse_reverse, ofFragments_fragments]

theorem trim_fragments (c : Content) : trim (fragments c) = fragments c.trim := by
  rw [trim, trimStart_fragments, trimEnd_fragments]
  rfl

/-! ## Cutting -/

namespace Cutting

variable {p : Cutting} {sep : Atom} {c : Content}

/-- The pieces are those between the occurrences of `sep` in the content. -/
def Cuts (p : Cutting) (sep : Atom) (c : Content) : Prop :=
  p.done ++ [p.current] = (splitOn sep c).map fragments

namespace Cuts

theorem empty (sep : Atom) : Cuts ⟨[], []⟩ sep [] := rfl

/-- What holds no separator goes to the last piece. -/
theorem push (h : p.Cuts sep c) {fragment : Fragment} (hsep : sep ∉ fragment.atoms) :
    (p.push fragment).Cuts sep (c ++ fragment.atoms) := by
  obtain ⟨pieces, last, first, others, hc, hatoms, hsplit, -⟩ :=
    List.exists_splitOn_append sep c fragment.atoms
  -- the fragment is one piece, which extends the last one
  rw [List.splitOn_eq_singleton hsep] at hatoms
  obtain ⟨rfl, rfl⟩ := List.cons.inj hatoms
  rw [Cuts, splitOn_eq_list, hc, List.map_append, List.map_singleton] at h
  obtain ⟨hdone, hcurrent⟩ := List.append_inj' h rfl
  rw [Cuts, splitOn_eq_list, hsplit, List.map_append, List.map_singleton, ← push_fragments, ← hdone,
    ← List.singleton_inj.1 hcurrent]
  rfl

/-- A separator cuts the last piece off. -/
theorem cut (h : p.Cuts sep c) : p.cut.Cuts sep (c ++ [sep]) := by
  rw [Cuts, splitOn_eq_list] at h ⊢
  rw [List.splitOn_append_cons_self, List.map_append, ← h]
  rfl

/-- The pieces of a text are cut apart as the newlines between them do. -/
theorem pushTexts (h : p.Cuts (.char '\n') c) {pieces : List Text}
    (hpieces : ∀ s ∈ pieces, '\n' ∉ s) :
    (p.pushTexts pieces).Cuts (.char '\n') (c ++ ofText (Text.joinWith ['\n'] pieces)) := by
  have hpush (s : Text) (hs : '\n' ∉ s) : Atom.char '\n' ∉ (Fragment.text s).atoms := by
    simpa [Fragment.atoms, ofText] using hs
  fun_induction Cutting.pushTexts p pieces generalizing c with
  | case1 p => simpa [Text.joinWith, ofText] using h
  | case2 p s => exact h.push (hpush s (hpieces s List.mem_cons_self))
  | case3 p s rest hrest ih =>
    -- the first piece is ended before the others come
    have hfirst := (h.push (hpush s (hpieces s List.mem_cons_self))).cut
    have hall := ih hfirst fun t ht => hpieces t (List.mem_cons_of_mem s ht)
    rw [Text.joinWith_cons hrest]
    simpa [Fragment.atoms, ofText] using hall

/-- In normal form, a carriage return and the newline behind it stand in one text, so the line
breaks of the content are read text by text. -/
theorem foldl_pushLines (h : p.Cuts (.char '\n') c) {b : Buffer} (hb : Normal b) :
    (b.foldl pushLines p).Cuts (.char '\n') (c ++ (ofFragments b).unifyNewlines) := by
  induction b generalizing p c with
  | nil => simpa [unifyNewlines] using h
  | cons fragment rest ih =>
    rw [List.foldl_cons, ofFragments_cons]
    cases fragment with
    | text s =>
      -- a text is read by itself, since a mark stands behind it
      have hpieces : ∀ line ∈ Text.splitOn '\n' (Text.unifyNewlines s), '\n' ∉ line :=
        fun line hline hmem => (Text.mem_and_ne_of_mem_splitOn hline hmem).2 rfl
      have htext := ih (h.pushTexts hpieces) hb.2.2
      have hmark : (ofFragments rest).head? ≠ some (.char '\n') := head?_ofFragments_ne hb.2.1
      rw [Text.joinWith_splitOn, List.append_assoc] at htext
      rwa [Fragment.atoms, unifyNewlines_ofText_append hmark]
    | _ =>
      -- a mark is no line break
      rw [unifyNewlines_atoms_append rfl, ← List.append_assoc]
      exact ih (h.push (by simp [Fragment.atoms])) hb.2.2

/-- Cell ends cut, and all else goes to the last piece. -/
theorem foldl_pushCell (h : p.Cuts .cellEnd c) (b : Buffer) :
    (b.foldl pushCell p).Cuts .cellEnd (c ++ ofFragments b) := by
  induction b generalizing p c with
  | nil => simpa using h
  | cons fragment rest ih =>
    rw [List.foldl_cons, ofFragments_cons, ← List.append_assoc]
    cases fragment with
    | cellEnd => exact ih h.cut
    | text s => exact ih (h.push (by simp [Fragment.atoms, ofText]))
    | _ => exact ih (h.push (by simp [Fragment.atoms]))

end Cuts

end Cutting

/-- The lines of a buffer are those of its atoms. -/
theorem lines_fragments (c : Content) :
    lines (fragments c) = (Content.lines c).map fragments := by
  have hcuts := (Cutting.Cuts.empty (.char '\n')).foldl_pushLines (normal_fragments c)
  rw [ofFragments_fragments, List.nil_append] at hcuts
  obtain ⟨pieces, last, hsplit⟩ : ∃ pieces last,
      splitOn (.char '\n') c.unifyNewlines = pieces ++ [last] := by
    rw [splitOn_eq_list]
    exact ⟨_, _, (List.dropLast_concat_getLast (List.splitOn_ne_nil _ _)).symm⟩
  rw [Cutting.Cuts, hsplit, List.map_append, List.map_singleton] at hcuts
  obtain ⟨hdone, hcurrent⟩ := List.append_inj' hcuts rfl
  rw [lines, hdone, List.singleton_inj.1 hcurrent, Content.lines, hsplit]
  -- an empty last line is no line, on either side
  cases last with
  | nil => simp [Content.fragments]
  | cons atom rest => simp [fragments_eq_nil_iff]

/-- The cells of a buffer are those of its atoms. -/
theorem cells_fragments (c : Content) :
    cells (fragments c) = (Content.cells c).map fragments := by
  have hcuts := (Cutting.Cuts.empty .cellEnd).foldl_pushCell (fragments c)
  rw [ofFragments_fragments, List.nil_append, Cutting.Cuts] at hcuts
  rw [cells, cells_eq_dropLast, List.map_dropLast, ← hcuts, List.dropLast_concat]

/-! ## Joining -/

/-- Buffers are joined as their contents are. -/
theorem joinWith_fragments (sep : Text) (pieces : List Content) :
    joinWith sep (pieces.map fragments) = fragments (Content.joinWith sep pieces) := by
  -- what is joined already counts as the first piece
  have hrest (rest : List Content) (c : Content) :
      (rest.map fragments).foldl (fun b piece => append (pushText b sep) piece) (fragments c) =
        fragments (Content.joinWith sep (c :: rest)) := by
    induction rest generalizing c with
    | nil => rfl
    | cons next more ih =>
      rw [List.map_cons, List.foldl_cons, pushText_fragments, append_fragments,
        ofFragments_fragments, ih, joinWith_append_cons]
      rfl
  cases pieces with
  | nil => rfl
  | cons first rest =>
    rw [List.map_cons, joinWith, ← collect, collect_eq_fragments, ofFragments_fragments, hrest]

end Buffer

end Gemtext
