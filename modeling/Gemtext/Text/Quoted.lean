import Gemtext.Text.Basic
import Gemtext.Text.CharClass

/-!
# Quoted text

A text between double quotes, in which quotes, backslashes, control characters and everything
that does not show as a character of its own are escaped.
-/

namespace Gemtext

namespace Quoted

/-- The form of a character between the quotes. -/
def quoteChar (c : Char) : Text :=
  if c = '"' then ['\\', '"']
  else if c = '\\' then ['\\', '\\']
  else if c = '\n' then ['\\', 'n']
  else if c = '\t' then ['\\', 't']
  else if c = '\r' then ['\\', 'r']
  else if c = '\x00' then ['\\', '0']
  else if isPrintable c && !extendsGrapheme c then [c]
  else ['\\', 'u', '\x7b'] ++ Nat.toDigits 16 c.toNat ++ ['\x7d']

end Quoted

/-- The text between quotes. -/
def Text.quoted (s : Text) : Text :=
  '"' :: s.flatMap Quoted.quoteChar ++ ['"']

end Gemtext
