import Gemtext.Number.Decimal

/-!
# Texts and keys in TOML

Texts stand between double quotes, where backslashes escape, or between single quotes, where
nothing does.  Between three quotes they may have several lines.

A key is bare or quoted; dots join keys.  The scanners answer with what follows.
-/

namespace Gemtext

namespace Toml

/-- Whether the character is a space or a tab. -/
def isSpace (c : Char) : Bool :=
  c == ' ' || c == '\t'

/-- Drop spaces and tabs at the start. -/
def dropSpaces (s : Text) : Text :=
  s.dropWhile isSpace

/-- Whether the character may stand in a text as it is. -/
def isPlain (c : Char) : Bool :=
  c == '\t' || (0x20 ≤ c.toNat && c.toNat != 0x7F)

/-- What follows the line ending at the start of the text. -/
def newline? : Text → Option Text
  | '\n' :: rest => some rest
  | '\r' :: '\n' :: rest => some rest
  | _ => none

/-- The character with the number that the hexadecimal digits denote. -/
def charOfHex? (digits : Text) : Option Char :=
  let n := hexDigitsValue digits
  if h : n.isValidChar then
    if digits.all fun c => (hexDigitValue? c).isSome then some (Char.ofNatAux n h) else none
  else none

/-- The character that a letter after a backslash stands for. -/
def escape? (c : Char) : Option Char :=
  match c with
  | 'b' => some '\x08'
  | 't' => some '\t'
  | 'n' => some '\n'
  | 'f' => some '\x0c'
  | 'r' => some '\r'
  | '"' => some '"'
  | '\\' => some '\\'
  | _ => none

/-- The text up to the closing double quote.  `read` is what was read, in reverse. -/
def basic? (read : Text) : Text → Option (Text × Text)
  | [] => none
  | '"' :: rest => some (read.reverse, rest)
  | '\\' :: 'u' :: a :: b :: c :: d :: rest =>
    match charOfHex? [a, b, c, d] with
    | some x => basic? (x :: read) rest
    | none => none
  | '\\' :: 'U' :: a :: b :: c :: d :: e :: f :: g :: h :: rest =>
    match charOfHex? [a, b, c, d, e, f, g, h] with
    | some x => basic? (x :: read) rest
    | none => none
  | '\\' :: c :: rest =>
    match escape? c with
    | some x => basic? (x :: read) rest
    | none => none
  | c :: rest => if isPlain c then basic? (c :: read) rest else none

/-- The text up to the closing single quote. -/
def literal? (s : Text) : Option (Text × Text) :=
  let content := s.takeWhile fun c => c != '\'' && isPlain c
  match s.drop content.length with
  | '\'' :: rest => some (content, rest)
  | _ => none

/-- The end of a text between three quotes, at the last three of up to five quotes: the quotes that
belong to the text, and what follows. -/
def closing? (quote : Char) (s : Text) : Option (Text × Text) :=
  let quotes := (s.takeWhile (· == quote)).take 5
  if 3 ≤ quotes.length then some (quotes.drop 3, s.drop quotes.length) else none

/-- Whether only spaces and tabs stand before the end of the line. -/
def endsLine (s : Text) : Bool :=
  (newline? (dropSpaces s)).isSome

/-- The text up to three closing double quotes.  `folding` tells whether white space is dropped,
as it is behind a backslash at the end of a line. -/
def multilineBasic? (folding : Bool) (read : Text) : Text → Option (Text × Text)
  | [] => none
  | '\\' :: 'u' :: a :: b :: c :: d :: rest =>
    match charOfHex? [a, b, c, d] with
    | some x => multilineBasic? false (x :: read) rest
    | none => none
  | '\\' :: 'U' :: a :: b :: c :: d :: e :: f :: g :: h :: rest =>
    match charOfHex? [a, b, c, d, e, f, g, h] with
    | some x => multilineBasic? false (x :: read) rest
    | none => none
  | '\r' :: '\n' :: rest =>
    multilineBasic? folding (if folding then read else '\n' :: read) rest
  | '\\' :: c :: rest =>
    if endsLine (c :: rest) then multilineBasic? true read (c :: rest)
    else
      match escape? c with
      | some x => multilineBasic? false (x :: read) rest
      | none => none
  | c :: rest =>
    if folding && (isSpace c || c == '\n') then multilineBasic? true read rest
    else if c = '"' then
      match closing? '"' (c :: rest) with
      | some (quotes, behind) => some (read.reverse ++ quotes, behind)
      | none => multilineBasic? false (c :: read) rest
    else if isPlain c || c = '\n' then multilineBasic? false (c :: read) rest
    else none

/-- The text up to three closing single quotes. -/
def multilineLiteral? (read : Text) : Text → Option (Text × Text)
  | [] => none
  | '\r' :: '\n' :: rest => multilineLiteral? ('\n' :: read) rest
  | c :: rest =>
    if c = '\'' then
      match closing? '\'' (c :: rest) with
      | some (quotes, behind) => some (read.reverse ++ quotes, behind)
      | none => multilineLiteral? (c :: read) rest
    else if isPlain c || c = '\n' then multilineLiteral? (c :: read) rest
    else none

/-- A text, and what follows.  A line ending behind three opening quotes is no part of it. -/
def text? (s : Text) : Option (Text × Text) :=
  let behindNewline (s : Text) : Text := (newline? s).getD s
  match s with
  | '"' :: '"' :: '"' :: rest => multilineBasic? false [] (behindNewline rest)
  | '\'' :: '\'' :: '\'' :: rest => multilineLiteral? [] (behindNewline rest)
  | '"' :: rest => basic? [] rest
  | '\'' :: rest => literal? rest
  | _ => none

/-- Whether the character may stand in a bare key. -/
def isBareKeyChar (c : Char) : Bool :=
  c.isAlphanum || c == '-' || c == '_'

/-- A key without dots, and what follows. -/
def simpleKey? (s : Text) : Option (Text × Text) :=
  match s with
  | '"' :: rest => basic? [] rest
  | '\'' :: rest => literal? rest
  | _ =>
    let name := s.takeWhile isBareKeyChar
    if name.isEmpty then none else some (name, s.drop name.length)

/-- The keys that dots join, at most `most`, and what follows them and the spaces behind them. -/
def key? (most : Nat) (s : Text) : Option (List Text × Text) :=
  match most with
  | 0 => none
  | most + 1 =>
    match simpleKey? (dropSpaces s) with
    | none => none
    | some (name, behind) =>
      match dropSpaces behind with
      | '.' :: rest => (key? most rest).map fun (names, rest) => (name :: names, rest)
      | rest => some ([name], rest)

end Toml

end Gemtext
