import Gemtext.Number.Binary64
import Gemtext.Toml.Basic

/-!
# Numbers, truth values and dates in TOML

A scalar is written as one word.  Underscores may part the digits of a number, and a number has no
superfluous zeros at its start.  A date or a time is kept as its text in normal form.
-/

namespace Gemtext

namespace Toml

/-- The digits without the underscores between them. -/
def joinDigits? (isDigit : Char → Bool) (s : Text) : Option Text :=
  let groups := Text.splitOn '_' s
  if groups.all fun group => !group.isEmpty && group.all isDigit then some groups.flatten
  else none

/-- The digits of a decimal number, which begin with zero only if that is all. -/
def decimalDigits? (s : Text) : Option Text :=
  (joinDigits? isDecimalDigit s).filter fun digits =>
    digits.length == 1 || digits.head? != some '0'

/-- The integer, if it is one of 64 bits. -/
def integerInRange? (negative : Bool) (magnitude : Nat) : Option Int :=
  let bound := if negative then twoTo 63 + 1 else twoTo 63
  if magnitude < bound then some (if negative then -(magnitude : Int) else magnitude) else none

/-- The number written by digits to a base. -/
def valueOfDigits (base : Nat) (digits : Text) : Nat :=
  digits.foldl (fun n c => base * n + (hexDigitValue? c).getD 0) 0

/-- An integer: decimal with an optional sign, or hexadecimal, octal or binary without. -/
def integer? (s : Text) : Option Int :=
  let based (base : Nat) (digits : Text) : Option Int :=
    (joinDigits? (fun c => (hexDigitValue? c).any (· < base)) digits).bind fun digits =>
      integerInRange? false (valueOfDigits base digits)
  match s with
  | '0' :: 'x' :: digits => based 16 digits
  | '0' :: 'o' :: digits => based 8 digits
  | '0' :: 'b' :: digits => based 2 digits
  | _ =>
    let (negative, body) := Text.splitSign s
    (decimalDigits? body).bind fun digits => integerInRange? negative (digitsValue digits)

/-- A number beyond the largest one of the binary64 format is refused, unless it is negative. -/
def isInRange : Numeral → Bool
  | .finite d => d.negative || (Binary64.ofDecimal? d).isSome
  | _ => true

/-- A floating point number: a decimal number with a fraction, an exponent or both, or one of the
words for infinity and for what is no number. -/
def float? (s : Text) : Option Numeral :=
  let (negative, body) := Text.splitSign s
  let sign : Text := if negative then ['-'] else []
  if body = "inf".toList then some (.infinity negative)
  else if body = "nan".toList then some .nan
  else
    let isExponentMark (c : Char) : Bool := c == 'e' || c == 'E'
    let mantissa := body.takeWhile (!isExponentMark ·)
    let whole := mantissa.takeWhile (· != '.')
    let fraction? : Option Text :=
      match mantissa.drop whole.length with
      | [] => some []
      | _ :: digits => (joinDigits? isDecimalDigit digits).map ('.' :: ·)
    let exponent? : Option Text :=
      match body.drop mantissa.length with
      | [] => some []
      | _ :: exponent =>
        let (negative, digits) := Text.splitSign exponent
        (joinDigits? isDecimalDigit digits).map fun digits =>
          'e' :: (if negative then '-' :: digits else digits)
    match decimalDigits? whole, fraction?, exponent? with
    | some digits, some fraction, some exponent =>
      if fraction.isEmpty && exponent.isEmpty then none
      else (Numeral.read? (sign ++ digits ++ fraction ++ exponent)).filter isInRange
    | _, _, _ => none

/-- The number that exactly `count` digits denote, if it lies between the bounds, and what
follows. -/
def field? (count low high : Nat) (s : Text) : Option (Nat × Text) :=
  let digits := (s.takeWhile isDecimalDigit).take count
  let value := digitsValue digits
  if digits.length = count && low ≤ value && value ≤ high then some (value, s.drop count)
  else none

/-- The number of days of a month. -/
def daysOfMonth (year month : Nat) : Nat :=
  if month = 2 then
    if year % 4 = 0 && (year % 100 != 0 || year % 400 = 0) then 29 else 28
  else if [4, 6, 9, 11].contains month then 30
  else 31

/-- The number with at least two digits. -/
def twoDigits (n : Nat) : Text :=
  if n < 10 then '0' :: Text.ofNat n else Text.ofNat n

/-- What follows a character at the start of a text. -/
def skip? (c : Char) (s : Text) : Option Text :=
  Text.dropStart? [c] s

/-- A date at the start of a text, and what follows. -/
def date? (s : Text) : Option (Text × Text) := do
  let (year, rest) ← field? 4 0 9999 s
  let (month, rest) ← field? 2 1 12 (← skip? '-' rest)
  let (_, rest) ← field? 2 1 (daysOfMonth year month) (← skip? '-' rest)
  pure (s.take 10, rest)

/-- A time of day at the start of a text, and what follows.  Of a fraction of a second nine digits
are kept, without the zeros at their end. -/
def time? (s : Text) : Option (Text × Text) := do
  let (_, rest) ← field? 2 0 23 s
  let (_, rest) ← field? 2 0 59 (← skip? ':' rest)
  let (_, rest) ← field? 2 0 60 (← skip? ':' rest)
  match rest with
  | '.' :: tail =>
    let digits := tail.takeWhile isDecimalDigit
    let kept := Text.dropEndWhile (· == '0') (digits.take 9)
    let fraction := if kept.isEmpty then [] else '.' :: kept
    if digits.isEmpty then none else some (s.take 8 ++ fraction, tail.drop digits.length)
  | _ => some (s.take 8, rest)

/-- The offset of a time zone. -/
def offset? (s : Text) : Option Text :=
  match s with
  | [] => some []
  | ['Z'] => some ['Z']
  | ['z'] => some ['Z']
  | sign :: rest => do
    let (hours, rest) ← field? 2 0 23 rest
    let (minutes, rest) ← field? 2 0 59 (← skip? ':' rest)
    let shown := if hours = 0 && minutes = 0 then '+' else sign
    if rest.isEmpty && (sign == '+' || sign == '-') then
      pure (shown :: twoDigits hours ++ ':' :: twoDigits minutes)
    else none

/-- A date, a time, or a date and a time with an optional time zone. -/
def dateTime? (s : Text) : Option Text :=
  match date? s with
  | some (date, []) => some date
  | some (date, c :: rest) =>
    if c = 'T' || c = 't' || c = ' ' then do
      let (time, zone) ← time? rest
      let offset ← offset? zone
      pure (date ++ 'T' :: time ++ offset)
    else none
  | none =>
    match time? s with
    | some (time, []) => some time
    | _ => none

/-- The value that a word denotes. -/
def scalarOfWord? (s : Text) : Option Toml :=
  if s = "true".toList then some (.boolean true)
  else if s = "false".toList then some (.boolean false)
  else
    ((dateTime? s).map .text).or (((float? s).map .float).or ((integer? s).map .integer))

/-- Whether the character may stand in a word. -/
def isWordChar (c : Char) : Bool :=
  c.isAlphanum || c == '_' || c == '+' || c == '-' || c == '.' || c == ':'

/-- A scalar that is not quoted, and what follows.  A date and a time may be parted by a space. -/
def scalar? (s : Text) : Option (Toml × Text) :=
  let word := s.takeWhile isWordChar
  let behind := s.drop word.length
  let (word, behind) :=
    match date? word, behind with
    | some (_, []), ' ' :: rest =>
      if rest.head?.any isDecimalDigit then
        let time := rest.takeWhile isWordChar
        (word ++ ' ' :: time, rest.drop time.length)
      else (word, behind)
    | _, _ => (word, behind)
  (scalarOfWord? word).map fun value => (value, behind)

end Toml

end Gemtext
