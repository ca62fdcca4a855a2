import Gemtext.Markdown.EntityNames
import Gemtext.Markdown.Scan
import Gemtext.Number.Decimal

/-!
# Character entities

An entity is written with an ampersand and a semicolon around a name or around a hash sign and a
number.  Numbers have up to seven decimal or up to six hexadecimal digits; those that are no
character stand for the replacement character.
-/

namespace Gemtext

namespace Markdown

/-- The character with the given number; numbers that are no character, and zero, give the
replacement character. -/
def charOfNumber (n : Nat) : Char :=
  if h : n.isValidChar then if n = 0 then '\ufffd' else Char.ofNatAux n h else '\ufffd'

/-- The text of an entity by name. -/
def entityText? (name : Text) : Option Text :=
  entityNames.findSome? fun line =>
    (Text.splitOn ' ' line.toList).findSome? fun entry =>
      (Text.dropStart? (name ++ ['=']) entry).map fun codes =>
        (Text.splitOn '+' codes).map fun code => charOfNumber (hexDigitsValue code)

/-- A numeric entity after its hash sign: its character and what follows. -/
def numericEntity? (s : Text) : Option (Text × Text) :=
  let finish (value digits : Nat) (most : Nat) (rest : Text) : Option (Text × Text) :=
    match rest with
    | ';' :: rest => if 1 ≤ digits && digits ≤ most then some ([charOfNumber value], rest) else none
    | _ => none
  match s with
  | 'x' :: rest | 'X' :: rest =>
    let digits := rest.takeWhile fun c => (hexDigitValue? c).isSome
    finish (hexDigitsValue digits) digits.length 6 (rest.drop digits.length)
  | _ =>
    let digits := s.takeWhile isDecimalDigit
    finish (digitsValue digits) digits.length 7 (s.drop digits.length)

/-- A named entity: its text and what follows.  The name has two to thirty-one characters, and
from the third on no spaces. -/
def namedEntity? (s : Text) : Option (Text × Text) :=
  let head := s.take 2
  let tail := ((s.drop 2).take 30).takeWhile fun c => c != ' ' && c != ';'
  match s.drop (2 + tail.length) with
  | ';' :: rest =>
    if tail.length < 30 then (entityText? (head ++ tail)).map fun text => (text, rest) else none
  | _ => none

/-- The entity after an ampersand: its text and what follows. -/
def entity? (s : Text) : Option (Text × Text) :=
  match s with
  | '#' :: rest =>
    match numericEntity? rest with
    | some found => some found
    | none => namedEntity? s
  | _ => namedEntity? s

/-- Replace the entities of a text; `skip` is the length of the rest of one that was just
replaced. -/
def unescapeEntitiesFrom (skip : Nat) : Text → Text
  | [] => []
  | c :: rest =>
    match skip with
    | skip + 1 => unescapeEntitiesFrom skip rest
    | 0 =>
      match if c = '&' then entity? rest else none with
      | some (text, behind) => text ++ unescapeEntitiesFrom (rest.length - behind.length) rest
      | none => c :: unescapeEntitiesFrom 0 rest

/-- The text with its entities replaced. -/
def unescapeEntities (s : Text) : Text :=
  unescapeEntitiesFrom 0 s

/-- The target that a link destination is written for. -/
def cleanTarget (s : Text) : Text :=
  unescapeBackslashes (unescapeEntities (trimWhite s))

end Markdown

end Gemtext
