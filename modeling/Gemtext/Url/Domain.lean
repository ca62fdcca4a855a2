import Gemtext.Text.CaseFold
import Gemtext.Text.CharClass
import Gemtext.Url.Punycode

/-!
# Domain names

Whether the host of a url is a domain name.  The host is percent-decoded and mapped first: case
is folded, fullwidth forms become ASCII, ideographic full stops become dots, and ignorable
characters vanish.  What remains must be free of the characters that a domain name cannot hold,
and every label must be well formed.
-/

namespace Gemtext

namespace Url

/-- The bytes of a text, with each percent sign and two hexadecimal digits read as one byte. -/
def percentBytes : Text → List UInt8
  | [] => []
  | '%' :: a :: b :: rest =>
    match hexDigitValue? a, hexDigitValue? b with
    | some high, some low => UInt8.ofNat (16 * high + low) :: percentBytes rest
    | _, _ => String.utf8EncodeChar '%' ++ percentBytes (a :: b :: rest)
  | c :: rest => String.utf8EncodeChar c ++ percentBytes rest

/-- The text with its percent escapes decoded, if the bytes are those of a text. -/
def percentDecode? (s : Text) : Option Text :=
  (String.fromUTF8? (percentBytes s).toByteArray).map String.toList

/-- The characters that are forbidden in every host. -/
def isForbiddenInHost (c : Char) : Bool :=
  c == '\x00' || "\t\n\r #/:<>?@[\\]^|".toList.contains c

/-- The ASCII characters that are forbidden in a domain name. -/
def isForbiddenInDomain (c : Char) : Bool :=
  isForbiddenInHost c || c.toNat < 0x20 || c.toNat == 0x7F || c == '%'

/-- The printable characters that are forbidden in a domain name, most because they stand for a
forbidden ASCII character. -/
def disallowedRanges : List (Nat × Nat) := [
    (0xA8, 0xA8), (0xAF, 0xAF), (0xB4, 0xB4), (0xB8, 0xB8), (0x2D8, 0x2DD), (0x37A, 0x37A),
    (0x384, 0x385), (0x115F, 0x1160), (0x17B4, 0x17B5), (0x1FBD, 0x1FBD), (0x1FBF, 0x1FC1),
    (0x1FCD, 0x1FCF), (0x1FDD, 0x1FDF), (0x1FED, 0x1FEE), (0x1FFD, 0x1FFE), (0x2017, 0x2017),
    (0x203E, 0x203E), (0x2047, 0x2049), (0x2100, 0x2101), (0x2105, 0x2106), (0x2A74, 0x2A74),
    (0x2FF0, 0x2FFF), (0x309B, 0x309C), (0xFC5E, 0xFC63), (0xFDFA, 0xFDFB), (0xFE13, 0xFE13),
    (0xFE16, 0xFE16), (0xFE47, 0xFE4C), (0xFE55, 0xFE56), (0xFE5F, 0xFE5F), (0xFE64, 0xFE65),
    (0xFE68, 0xFE68), (0xFE6A, 0xFE6B), (0xFE70, 0xFE70), (0xFE72, 0xFE72), (0xFE74, 0xFE74),
    (0xFE76, 0xFE76), (0xFE78, 0xFE78), (0xFE7A, 0xFE7A), (0xFE7C, 0xFE7C), (0xFE7E, 0xFE7E),
    (0xFFE3, 0xFFE3), (0xFFFC, 0xFFFD)]

/-- Whether the character vanishes from a domain name. -/
def isIgnoredInDomain (c : Char) : Bool :=
  let n := c.toNat
  n == 0xAD || n == 0x34F || (0x180B ≤ n && n ≤ 0x180F) || n == 0x200B || n == 0x2060 ||
    n == 0x2064 || (0xFE00 ≤ n && n ≤ 0xFE0F) || n == 0xFEFF || (0x1BCA0 ≤ n && n ≤ 0x1BCA3) ||
    (0xE0100 ≤ n && n ≤ 0xE01EF)

/-- Whether the character joins or separates letters without being seen. -/
def isJoiner (c : Char) : Bool :=
  c.toNat == 0x200C || c.toNat == 0x200D

/-- Whether a mapped character may stand in a domain name. -/
def isAllowedInDomain (c : Char) : Bool :=
  if c.toNat < 0x80 then !isForbiddenInDomain c
  else (isPrintable c || isJoiner c) && !inRanges c.toNat disallowedRanges

/-- The character as it is mapped for a domain name. -/
def mapDomainChar (c : Char) : Text :=
  let n := c.toNat
  if isIgnoredInDomain c then []
  else if n == 0x3002 || n == 0xFF61 then ['.']
  else if 0xFF01 ≤ n && n ≤ 0xFF5E then CaseFold.foldChar (Char.ofNat (n - 0xFEE0))
  else CaseFold.foldChar c

/-- Whether a label that is not encoded is well formed: it begins with no character that extends
another, and joiners stand only behind such a character. -/
def isLabel (label : Text) : Bool :=
  !(label.head?.elim false extendsGrapheme) &&
    (label.zip (' ' :: label)).all fun (c, before) => !isJoiner c || extendsGrapheme before

/-- Whether an encoded label decodes to a label that has to be encoded. -/
def isEncodedLabel (code : Text) : Bool :=
  match Punycode.decode? code with
  | none => false
  | some label =>
    label.any (0x80 ≤ ·.toNat) && isLabel label &&
      label.all fun c => isAllowedInDomain c && mapDomainChar c == [c]

/-- The domain name that the host stands for, if it is one. -/
def domain? (host : Text) : Option Text := do
  let decoded ← percentDecode? host
  let domain := decoded.flatMap mapDomainChar
  let wellFormed (label : Text) : Bool :=
    match Text.dropStart? "xn--".toList label with
    | some code => label.all (·.toNat < 0x80) && isEncodedLabel code
    | none => isLabel label
  if domain.isEmpty || !domain.all isAllowedInDomain ||
      !(Text.splitOn '.' domain).all wellFormed then none
  else some domain

end Url

end Gemtext
