import Gemtext.Text.Basic
import Gemtext.Text.Punctuation

/-!
# Scanning Markdown

The character classes of the Markdown grammar, and the small steps that its constructs share.
A scanner looks at a text and answers with what follows the construct, or with nothing if the
text does not begin with one.
-/

namespace Gemtext

namespace Markdown

/-- Whether the character is white space in the sense of the grammar: a space or one of the five
ASCII control characters from the tab to the carriage return. -/
def isSpaceChar (c : Char) : Bool :=
  c == ' ' || (9 ≤ c.toNat && c.toNat ≤ 13)

/-- Whether the character is a space or a tab. -/
def isSpaceOrTab (c : Char) : Bool :=
  c == ' ' || c == '\t'

/-- Whether the character ends a line. -/
def isLineEnd (c : Char) : Bool :=
  c == '\n' || c == '\r'

/-- Whether the character is an ASCII control character. -/
def isControl (c : Char) : Bool :=
  c.toNat < 0x20 || c.toNat == 0x7F

/-- Drop spaces and tabs at the start. -/
def dropSpaces (s : Text) : Text :=
  s.dropWhile isSpaceOrTab

/-- Drop white space at the start. -/
def dropWhite (s : Text) : Text :=
  s.dropWhile isSpaceChar

/-- Drop white space at the end. -/
def dropEndWhite (s : Text) : Text :=
  Text.dropEndWhile isSpaceChar s

/-- Drop white space at both ends. -/
def trimWhite (s : Text) : Text :=
  dropEndWhite (dropWhite s)

/-- What follows a line ending at the start of the text; the end of the text counts as one. -/
def lineEnd? : Text → Option Text
  | [] => some []
  | '\r' :: '\n' :: rest => some rest
  | '\r' :: rest => some rest
  | '\n' :: rest => some rest
  | _ => none

/-- Drop spaces and tabs, and up to one line ending among them. -/
def dropSpacesAndNewline (s : Text) : Text :=
  let s := dropSpaces s
  match s with
  | [] => []
  | _ => ((lineEnd? s).map dropSpaces).getD s

/-- Whether the text begins with `start`, which is in small letters, in any case. -/
def startsWithNoCase (start s : Text) : Bool :=
  start.isPrefixOf (s.map Char.toLower)

/-- The length of the run of `c` at the start. -/
def runLength (c : Char) (s : Text) : Nat :=
  (s.takeWhile (· == c)).length

/-- What follows the first occurrence of `target`. -/
def after? (target : Text) : Text → Option Text
  | [] => if target.isEmpty then some [] else none
  | c :: rest =>
    match Text.dropStart? target (c :: rest) with
    | some behind => some behind
    | none => after? target rest

/-- Remove the backslashes that stand before punctuation. -/
def unescapeBackslashes : Text → Text
  | '\\' :: c :: rest =>
    if isAsciiPunctuation c then c :: unescapeBackslashes rest
    else '\\' :: unescapeBackslashes (c :: rest)
  | c :: rest => c :: unescapeBackslashes rest
  | [] => []

end Markdown

end Gemtext
