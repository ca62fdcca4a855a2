import Gemtext.Text.Basic

/-!
# Footnotes

The links of a document that wait for their link lines.  Footnotes are numbered through the whole
document, from one.  No footnote stores its number: those that wait have the last numbers given
out, so their numbers follow from the last one and from how many wait.
-/

namespace Gemtext

/-- A link that waits for its link line. -/
structure Footnote where
  url : Text
  /-- The text that stands in the document for the link. -/
  text : Text
  deriving DecidableEq, Repr

/-- The footnotes of a document so far. -/
structure Footnotes where
  /-- The number of the last footnote. -/
  counter : Nat
  /-- Those that wait, in order. -/
  pending : List Footnote
  deriving DecidableEq, Repr

namespace Footnotes

/-- No footnotes. -/
def empty : Footnotes :=
  ⟨0, []⟩

/-- The number of the first footnote that waits. -/
def first (f : Footnotes) : Nat :=
  f.counter + 1 - f.pending.length

/-- Add a footnote, which gets the next number. -/
def register (f : Footnotes) (note : Footnote) : Footnotes :=
  ⟨f.counter + 1, f.pending ++ [note]⟩

/-- Up to `limit` of the oldest footnotes that wait. -/
def oldest (f : Footnotes) (limit : Nat) : List Footnote :=
  f.pending.take limit

/-- Hand out up to `limit` of the oldest footnotes that wait. -/
def drop (f : Footnotes) (limit : Nat) : Footnotes :=
  { f with pending := f.pending.drop limit }

/-- Withdraw the only footnote that waits, giving its number back. -/
def demote? (f : Footnotes) : Option (Footnote × Footnotes) :=
  match f.pending with
  | [only] => some (only, ⟨f.counter - 1, []⟩)
  | _ => none

end Footnotes

end Gemtext
