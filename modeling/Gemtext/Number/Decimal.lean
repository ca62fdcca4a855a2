import Gemtext.Number.Basic
import Gemtext.Text.Basic

/-!
# Decimal numerals

Reading a number from its decimal text and writing a scaled natural number with a decimal point.

A `Decimal` is a sign, a natural number and a power of ten.  `Numeral.read?` accepts an optional
sign followed by `inf`, `infinity` or `nan` in any case, or by digits with an optional point and
an optional exponent; at least one digit stands before or after the point.
-/

namespace Gemtext

/-- Whether the character is one of the digits `0` to `9`. -/
def isDecimalDigit (c : Char) : Bool :=
  '0' ≤ c && c ≤ '9'

/-- The number that a digit stands for. -/
def digitValue (c : Char) : Nat :=
  c.toNat - '0'.toNat

/-- The number written by a list of digits. -/
def digitsValue (digits : Text) : Nat :=
  digits.foldl (fun n c => 10 * n + digitValue c) 0

/-- The value of a hexadecimal digit, in either case. -/
def hexDigitValue? (c : Char) : Option Nat :=
  if isDecimalDigit c then some (digitValue c)
  else if 'a' ≤ c && c ≤ 'f' then some (c.toNat - 'a'.toNat + 10)
  else if 'A' ≤ c && c ≤ 'F' then some (c.toNat - 'A'.toNat + 10)
  else none

/-- The number written by a list of hexadecimal digits. -/
def hexDigitsValue (digits : Text) : Nat :=
  digits.foldl (fun n c => 16 * n + (hexDigitValue? c).getD 0) 0

/-- The value `(-1)^negative · coefficient · 10^exponent`. -/
structure Decimal where
  negative : Bool
  coefficient : Nat
  exponent : Int
  deriving DecidableEq, Repr

/-- What the text of a number can denote. -/
inductive Numeral where
  | finite (value : Decimal)
  | infinity (negative : Bool)
  | nan
  deriving DecidableEq, Repr

namespace Text

/-- The character with an ASCII capital letter made small. -/
def asciiLowerChar (c : Char) : Char :=
  if 'A' ≤ c && c ≤ 'Z' then Char.ofNat (c.toNat + 32) else c

/-- The text with ASCII capital letters made small. -/
def asciiLower (s : Text) : Text :=
  s.map asciiLowerChar

/-- An optional sign: whether it is a minus, and what follows. -/
def splitSign : Text → Bool × Text
  | '-' :: rest => (true, rest)
  | '+' :: rest => (false, rest)
  | s => (false, s)

/-- A sign, if the text begins with it, and a nonempty list of digits to its end. -/
def signedDigits? (s : Text) : Option Int :=
  let (negative, digits) := splitSign s
  if digits.isEmpty || !digits.all isDecimalDigit then none
  else some (if negative then -(digitsValue digits : Int) else digitsValue digits)

end Text

namespace Numeral

/-- The exponent after the digits of a number; the text may be empty, which gives zero. -/
def exponent? : Text → Option Int
  | [] => some 0
  | c :: rest => if c == 'e' || c == 'E' then Text.signedDigits? rest else none

/-- A number without sign: digits, an optional point with digits, an optional exponent. -/
def unsigned? (negative : Bool) (s : Text) : Option Numeral :=
  let whole := s.takeWhile isDecimalDigit
  let afterWhole := s.dropWhile isDecimalDigit
  let (fraction, afterFraction) :=
    match afterWhole with
    | '.' :: rest => (rest.takeWhile isDecimalDigit, rest.dropWhile isDecimalDigit)
    | rest => ([], rest)
  if whole.isEmpty && fraction.isEmpty then none
  else
    (exponent? afterFraction).map fun exponent =>
      .finite ⟨negative, digitsValue (whole ++ fraction), exponent - fraction.length⟩

/-- The number that the text denotes, if it is the text of a number. -/
def read? (s : Text) : Option Numeral :=
  let (negative, body) := Text.splitSign s
  let word := Text.asciiLower body
  if word == "inf".toList || word == "infinity".toList then some (.infinity negative)
  else if word == "nan".toList then some .nan
  else unsigned? negative body

end Numeral

/-- The text of `n / 10^places` with exactly `places` digits after the point, which is left out
when there are none. -/
def fixedText (n places : Nat) : Text :=
  let digits := Text.ofNat n
  let padded := List.replicate (places + 1 - digits.length) '0' ++ digits
  let cut := padded.length - places
  if places = 0 then padded else padded.take cut ++ '.' :: padded.drop cut

end Gemtext
