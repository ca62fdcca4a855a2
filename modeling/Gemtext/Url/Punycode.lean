import Gemtext.Number.Decimal

/-!
# Punycode

The decoding of domain labels that are written with ASCII letters and digits only.  The part
before the last hyphen is taken as it is; the rest is a list of numbers in a variable-length
notation, each of which says which code point is inserted where.
-/

namespace Gemtext

namespace Punycode

/-- The value of a digit: the letters, in either case, come before the decimal digits. -/
def digit? (c : Char) : Option Nat :=
  if 'a' ≤ c && c ≤ 'z' then some (c.toNat - 'a'.toNat)
  else if 'A' ≤ c && c ≤ 'Z' then some (c.toNat - 'A'.toNat)
  else if isDecimalDigit c then some (digitValue c + 26)
  else none

/-- The threshold of the digit at position `k`. -/
def threshold (k bias : Nat) : Nat :=
  if k ≤ bias then 1 else if bias + 26 ≤ k then 26 else k - bias

/-- Divide by 35 until the value is at most 455, at most `fuel` times: the value and what the
steps add to the bias. -/
def shrink (fuel delta : Nat) : Nat × Nat :=
  match fuel with
  | 0 => (delta, 0)
  | fuel + 1 =>
    if 455 < delta then
      let (delta, steps) := shrink fuel (delta / 35)
      (delta, steps + 36)
    else (delta, 0)

/-- The bias after a number `delta` has inserted the last of `count` characters. -/
def adaptBias (delta count : Nat) (first : Bool) : Nat :=
  let delta := if first then delta / 700 else delta / 2
  let (delta, steps) := shrink 16 (delta + delta / count)
  steps + 36 * delta / (delta + 38)

/-- Where the decoding stands. -/
structure State where
  /-- The characters so far. -/
  output : Text
  /-- The code point that is inserted next. -/
  codePoint : Nat
  /-- The position reached by the last insertion. -/
  index : Nat
  bias : Nat

/-- Insert the code point that a whole number leads to, if it is one. -/
def State.insert (st : State) (index : Nat) : Option State :=
  let count := st.output.length + 1
  let codePoint := st.codePoint + index / count
  let position := index % count
  if h : codePoint.isValidChar then
    let c := Char.ofNatAux codePoint h
    some {
      output := st.output.take position ++ c :: st.output.drop position
      codePoint
      index := position + 1
      bias := adaptBias (index - st.index) count (st.index == 0) }
  else none

/-- Read the numbers.  The digits of the current one have brought the index to `index`; its next
digit has the weight `weight` and stands at position `k`, which is 36 for the first. -/
def decodeNumbers (st : State) (index weight k : Nat) : Text → Option Text
  | [] => if k = 36 then some st.output else none
  | c :: rest => do
    let digit ← digit? c
    let index := index + digit * weight
    let t := threshold k st.bias
    if digit < t then
      let next ← st.insert index
      decodeNumbers next next.index 1 36 rest
    else if 0x110000 * 0x10000 < index then none
    else decodeNumbers st index (weight * (36 - t)) (k + 36) rest

/-- The label that the code stands for. -/
def decode? (code : Text) : Option Text :=
  let upToHyphen := (code.reverse.dropWhile (· != '-')).reverse
  let basic := upToHyphen.dropLast
  if basic.all (·.toNat < 0x80) then
    decodeNumbers ⟨basic, 128, 0, 72⟩ 0 1 36 (code.drop upToHyphen.length)
  else none

end Punycode

end Gemtext
