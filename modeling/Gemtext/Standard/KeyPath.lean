import Gemtext.Settings.Setting

/-!
# Reading keys

A key leads to a setting step by step: a name, then further names behind dots and places in lists
in square brackets.
-/

namespace Gemtext

namespace KeyStep

/-- Whether the character may stand in a name. -/
def isNameChar (c : Char) : Bool :=
  c.isAlphanum || c == ' ' || c == '_' || c == '-'

/-- A name, and what follows. -/
def name? (s : Text) : Option (KeyStep × Text) :=
  let found := s.takeWhile isNameChar
  if found.isEmpty then none else some (.name found, s.drop found.length)

/-- A place in a list, of which the opening bracket has been read, and what follows. -/
def place? (s : Text) : Option (KeyStep × Text) :=
  let isSpace (c : Char) : Bool := c == ' ' || c == '\t'
  let inside := s.takeWhile (· != ']')
  let digits := Text.dropEndWhile isSpace (inside.dropWhile isSpace)
  match if digits.head? = some '+' then none else Text.signedDigits? digits,
      s.drop inside.length with
  | some index, _ :: rest =>
    let bound := if index < 0 then twoTo 63 + 1 else twoTo 63
    if index.natAbs < bound then some (.place index, rest) else none
  | _, _ => none

/-- The further steps of a key, at most `most`. -/
def steps? (most : Nat) (s : Text) : Option (List KeyStep) :=
  match most, s with
  | _, [] => some []
  | 0, _ => none
  | most + 1, c :: rest =>
    let step? := if c = '.' then name? rest else if c = '[' then place? rest else none
    match step? with
    | some (step, behind) => (steps? most behind).map (step :: ·)
    | none => none

/-- The steps of a key. -/
def ofText? (key : Text) : Option (List KeyStep) :=
  match name? key with
  | some (step, rest) => (steps? rest.length rest).map (step :: ·)
  | none => none

end KeyStep

end Gemtext
