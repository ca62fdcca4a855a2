import Gemtext.Proofs.Content.Buffer

/-!
# Buffers that operations build

A construction says how a buffer is built from the empty one.  It can be carried out on fragments
(`buffer`) and on atoms (`content`), and both come to the same: the buffer has the fragments of the
content (`buffer_eq_fragments`).  So a buffer that was built is in normal form, and its atoms are
all there is to know about it (`buffers_are_canonical`).
-/

namespace Gemtext

open Content

/-- How a buffer is built.  Where an operation gives several buffers, one is chosen by its place,
and there are empty ones behind the last. -/
inductive Construction where
  | empty
  | pushText (t : Construction) (s : Text)
  | push (t : Construction) (fragment : Fragment)
  | append (t other : Construction)
  | prependText (t : Construction) (s : Text)
  | wrapped (t : Construction) (before after : Text)
  | mapText (t : Construction) (f : Text → Text)
  | line (t : Construction) (i : Nat)
  | joinWith (sep : Text) (pieces : List Construction)
  | cell (t : Construction) (i : Nat)
  | flattenBlocks (t : Construction)
  | linkLines (t : Construction)
  | trimStart (t : Construction)
  | trimEnd (t : Construction)
  | trim (t : Construction)
  | collect (fragments : List Fragment)

namespace Construction

mutual

/-- The buffer that is built. -/
def buffer : Construction → Buffer
  | empty => []
  | pushText t s => t.buffer.pushText s
  | push t fragment => t.buffer.push fragment
  | append t other => t.buffer.append other.buffer
  | prependText t s => t.buffer.prependText s
  | wrapped t before after => t.buffer.wrapped before after
  | mapText t f => t.buffer.mapText f
  | line t i => t.buffer.lines.getD i []
  | joinWith sep pieces => Buffer.joinWith sep (buffers pieces)
  | cell t i => t.buffer.cells.getD i []
  | flattenBlocks t => t.buffer.flattenBlocks
  | linkLines t => t.buffer.linkLines
  | trimStart t => t.buffer.trimStart
  | trimEnd t => t.buffer.trimEnd
  | trim t => t.buffer.trim
  | collect fragments => Buffer.collect fragments

/-- The buffers that are built. -/
def buffers : List Construction → List Buffer
  | [] => []
  | t :: rest => t.buffer :: buffers rest

end

mutual

/-- The content that the same operations make of atoms. -/
def content : Construction → Content
  | empty => []
  | pushText t s => t.content ++ ofText s
  | push t fragment => t.content ++ fragment.atoms
  | append t other => t.content ++ other.content
  | prependText t s => ofText s ++ t.content
  | wrapped t before after => t.content.wrapped before after
  | mapText t f => t.content.mapText f
  | line t i => (Content.lines t.content).getD i []
  | joinWith sep pieces => Content.joinWith sep (contents pieces)
  | cell t i => (Content.cells t.content).getD i []
  | flattenBlocks t => t.content.flattenBlocks
  | linkLines t => t.content.linkLines
  | trimStart t => t.content.trimStart
  | trimEnd t => t.content.trimEnd
  | trim t => t.content.trim
  | collect fragments => ofFragments fragments

/-- The contents of the constructions. -/
def contents : List Construction → List Content
  | [] => []
  | t :: rest => t.content :: contents rest

end

/-- A piece is chosen before or after it is turned into fragments, and behind the last piece there
is an empty one. -/
theorem getD_map_fragments (pieces : List Content) (i : Nat) :
    (pieces.map fragments).getD i [] = fragments (pieces.getD i []) := by
  rw [List.getD_eq_getElem?_getD, List.getElem?_map, List.getD_eq_getElem?_getD]
  cases pieces[i]? with
  | none => rfl
  | some piece => rfl

mutual

/-- The operations on fragments and those on atoms come to the same. -/
theorem buffer_eq_fragments (t : Construction) : t.buffer = fragments t.content := by
  cases t with
  | empty => rfl
  | pushText t s => rw [buffer, content, buffer_eq_fragments t, Buffer.pushText_fragments]
  | push t fragment => rw [buffer, content, buffer_eq_fragments t, Buffer.push_fragments]
  | append t other =>
    rw [buffer, content, buffer_eq_fragments t, buffer_eq_fragments other,
      Buffer.append_fragments, ofFragments_fragments]
  | prependText t s => rw [buffer, content, buffer_eq_fragments t, Buffer.prependText_fragments]
  | wrapped t before after =>
    rw [buffer, content, buffer_eq_fragments t, Buffer.wrapped_fragments]
  | mapText t f => rw [buffer, content, buffer_eq_fragments t, Buffer.mapText_fragments]
  | line t i =>
    rw [buffer, content, buffer_eq_fragments t, Buffer.lines_fragments, getD_map_fragments]
  | joinWith sep pieces =>
    rw [buffer, content, buffers_eq_map_fragments pieces, Buffer.joinWith_fragments]
  | cell t i =>
    rw [buffer, content, buffer_eq_fragments t, Buffer.cells_fragments, getD_map_fragments]
  | flattenBlocks t =>
    rw [buffer, content, buffer_eq_fragments t, Buffer.flattenBlocks_fragments]
  | linkLines t => rw [buffer, content, buffer_eq_fragments t, Buffer.linkLines_fragments]
  | trimStart t => rw [buffer, content, buffer_eq_fragments t, Buffer.trimStart_fragments]
  | trimEnd t => rw [buffer, content, buffer_eq_fragments t, Buffer.trimEnd_fragments]
  | trim t => rw [buffer, content, buffer_eq_fragments t, Buffer.trim_fragments]
  | collect fragments => rw [buffer, content, Buffer.collect_eq_fragments]

/-- The same for the pieces that are joined. -/
theorem buffers_eq_map_fragments (ts : List Construction) :
    buffers ts = (contents ts).map fragments := by
  cases ts with
  | nil => rfl
  | cons t rest =>
    rw [buffers, contents, List.map_cons, buffer_eq_fragments t, buffers_eq_map_fragments rest]

end

/-- A mark stays on the line that it stands on. -/
example : (line (collect [.text "a\r\nb ".toList, .hardBreak, .text " c\nd".toList]) 1).buffer =
    [.text "b ".toList, .hardBreak, .text " c".toList] := by
  decide

end Construction

/-- A buffer that was built holds no empty text and no two texts in a row: it has the fragments of
the content that the same operations make of atoms.  So two such buffers are equal exactly if they
have the same atoms.  Appending puts the atoms one behind the other; it is associative, the empty
buffer changes nothing on either side, and it makes no difference how the text that is appended was
split into pieces. -/
theorem buffers_are_canonical (t u v : Construction) :
    (.text [] ∉ t.buffer ∧ t.buffer.IsChain fun f g => ¬(f.isText ∧ g.isText)) ∧
      t.buffer = fragments t.content ∧ ofFragments t.buffer = t.content ∧
      (t.buffer = u.buffer ↔ ofFragments t.buffer = ofFragments u.buffer) ∧
      ofFragments (t.buffer.append u.buffer) = ofFragments t.buffer ++ ofFragments u.buffer ∧
      (t.buffer.append u.buffer).append v.buffer = t.buffer.append (u.buffer.append v.buffer) ∧
      Buffer.append [] t.buffer = t.buffer ∧ t.buffer.append [] = t.buffer ∧
      ∀ pieces others : List Fragment, ofFragments pieces = ofFragments others →
        t.buffer.append pieces = t.buffer.append others ∧
          Buffer.collect pieces = Buffer.collect others := by
  have hbuffer (t : Construction) : t.buffer = fragments t.content := t.buffer_eq_fragments
  have hatoms (t : Construction) : ofFragments t.buffer = t.content := by
    rw [hbuffer, ofFragments_fragments]
  have happend (t u : Construction) :
      t.buffer.append u.buffer = fragments (t.content ++ u.content) := by
    rw [hbuffer t, Buffer.append_fragments, hatoms]
  refine ⟨?_, hbuffer t, hatoms t, ?_, ?_, ?_, ?_, rfl, ?_⟩
  · -- fragments of a content are in normal form
    rw [← Fragment.normal_iff_isChain, hbuffer]
    exact normal_fragments t.content
  · -- the atoms determine the fragments
    refine ⟨congrArg ofFragments, fun h => ?_⟩
    rw [hatoms, hatoms] at h
    rw [hbuffer, hbuffer, h]
  · rw [happend, ofFragments_fragments, hatoms, hatoms]
  · -- both sides have the atoms of all three
    rw [happend, happend, hbuffer t, Buffer.append_fragments, Buffer.append_fragments, hatoms,
      ofFragments_fragments, List.append_assoc]
  · exact (Buffer.collect_eq_fragments _).trans (by rw [hatoms, hbuffer])
  · -- only the atoms of what is appended count
    intro pieces others h
    rw [hbuffer, Buffer.append_fragments, Buffer.append_fragments, Buffer.collect_eq_fragments,
      Buffer.collect_eq_fragments, h]
    exact ⟨rfl, rfl⟩

/-- Text that is appended in one piece or in three leaves the same buffer behind. -/
theorem buffers_are_canonical_split :
    let t := Construction.pushText (.push .empty .hardBreak) ['a']
    let whole : List Fragment := [.text ['b', 'c']]
    let pieces : List Fragment := [.text ['b'], .text [], .text ['c']]
    ofFragments pieces = ofFragments whole ∧
      t.buffer.append whole = [.hardBreak, .text ['a', 'b', 'c']] ∧
      t.buffer.append pieces = [.hardBreak, .text ['a', 'b', 'c']] := by
  intro t whole pieces
  have hatoms : ofFragments pieces = ofFragments whole := by decide
  have hwhole : t.buffer.append whole = [.hardBreak, .text ['a', 'b', 'c']] := by decide
  obtain ⟨-, -, -, -, -, -, -, -, hsplit⟩ := buffers_are_canonical t .empty .empty
  obtain ⟨hsame, -⟩ := hsplit pieces whole hatoms
  exact ⟨hatoms, hwhole, hsame.trans hwhole⟩

end Gemtext
