import Gemtext.Toml.Scalar
import Gemtext.Toml.Text

/-!
# Reading TOML

`Toml.parse?` reads a document into the entries of its table.  Every line holds a pair, the header
of a table or of an element of an array of tables, or nothing; comments begin with a hash sign.  A
document that breaks a rule has no reading.
-/

namespace Gemtext

namespace Toml

/-- Whether the character may stand in a comment. -/
def isCommentChar (c : Char) : Bool :=
  c == '\t' || 0x20 ≤ c.toNat

/-- Drop spaces and a comment. -/
def dropComment (s : Text) : Text :=
  match dropSpaces s with
  | '#' :: rest => rest.dropWhile isCommentChar
  | rest => rest

/-- Drop spaces, line endings and comments. -/
def dropBlank (inComment : Bool) : Text → Text
  | [] => []
  | '\r' :: '\n' :: rest => dropBlank false rest
  | c :: rest =>
    if inComment then
      if c = '\n' then dropBlank false rest
      else if isCommentChar c then dropBlank true rest
      else c :: rest
    else if isSpace c || c = '\n' then dropBlank false rest
    else if c = '#' then dropBlank true rest
    else c :: rest

/-- A reader of values: it answers with the value at the start of a text and with what follows. -/
abbrev Reader := Text → Option (Toml × Text)

/-- The items of an array, at most `most`, of which the bracket has been read, and what follows. -/
def items? (value? : Reader) (most : Nat) (s : Text) : Option (List Toml × Text) :=
  match most with
  | 0 => none
  | most + 1 =>
    match dropBlank false s with
    | ']' :: rest => some ([], rest)
    | s =>
      match value? s with
      | none => none
      | some (item, behind) =>
        match dropBlank false behind with
        | ',' :: rest => (items? value? most rest).map fun (items, rest) => (item :: items, rest)
        | ']' :: rest => some ([item], rest)
        | _ => none

/-- A key and its value. -/
structure Pair where
  /-- The names of the tables that the key is dotted with. -/
  path : List Text
  key : Text
  value : Toml

/-- Add the pair to the entries of a table. -/
def Pair.insertInto (p : Pair) (entries : Entries) : Option Entries :=
  insertPair p.key p.value p.path entries

/-- A pair, and what follows it and the spaces behind it. -/
def pair? (value? : Reader) (s : Text) : Option (Pair × Text) :=
  match key? (s.length + 1) s with
  | some (names, '=' :: rest) =>
    (value? (dropSpaces rest)).map fun (value, behind) =>
      (⟨names.dropLast, names.getLastD [], value⟩, dropSpaces behind)
  | _ => none

/-- The pairs of an inline table, at most `most`, and what follows.  They come after `entries`. -/
def pairs? (value? : Reader) (most : Nat) (entries : Entries) (s : Text) :
    Option (Entries × Text) :=
  match most with
  | 0 => none
  | most + 1 =>
    match pair? value? s with
    | none => none
    | some (pair, behind) =>
      match pair.insertInto entries, behind with
      | some entries, ',' :: rest => pairs? value? most entries rest
      | some entries, '\x7d' :: rest => some (entries, rest)
      | _, _ => none

/-- A value that is nested less than `depth` deep, and what follows. -/
def value? (depth : Nat) (s : Text) : Option (Toml × Text) :=
  match depth with
  | 0 => none
  | depth + 1 =>
    match s with
    | '[' :: rest =>
      (items? (value? depth) (rest.length + 1) rest).map fun (items, rest) => (.array items, rest)
    | '\x7b' :: rest =>
      match dropSpaces rest with
      | '\x7d' :: rest => some (.table .inline [], rest)
      | rest =>
        (pairs? (value? depth) (rest.length + 1) [] rest).map fun (entries, rest) =>
          (.table .inline entries, rest)
    | '"' :: _ => (text? s).map fun (s, rest) => (.text s, rest)
    | '\'' :: _ => (text? s).map fun (s, rest) => (.text s, rest)
    | _ => scalar? s

/-- How deep values may be nested. -/
def maxDepth : Nat :=
  80

/-- A document of which a part is read. -/
structure Partial where
  entries : Entries
  /-- The path of the table to which pairs are added. -/
  current : List Text

/-- Change the table at a path, which is not empty, of the document. -/
def Partial.alter (p : Partial) (f : Option Toml → Option Toml) (path : List Text) :
    Option Partial :=
  (alterAt f (path.getLastD []) path.dropLast p.entries).map fun entries => ⟨entries, path⟩

/-- Read a header, of which the opening brackets have been read. -/
def Partial.header? (p : Partial) (closing : Text) (f : Option Toml → Option Toml) (s : Text) :
    Option (Partial × Text) :=
  match key? (s.length + 1) s with
  | some (path, rest) =>
    match Text.dropStart? closing rest, p.alter f path with
    | some rest, some p => some (p, rest)
    | _, _ => none
  | none => none

/-- Read a pair into the current table. -/
def Partial.pair? (p : Partial) (s : Text) : Option (Partial × Text) :=
  match Toml.pair? (value? maxDepth) s with
  | none => none
  | some (pair, rest) =>
    let added? :=
      if p.current.isEmpty then (pair.insertInto p.entries).map fun entries => ⟨entries, []⟩
      else p.alter (changeTable pair.insertInto) p.current
    added?.map fun p => (p, rest)

/-- Read what stands on a line, if anything does. -/
def Partial.expression? (p : Partial) (s : Text) : Option (Partial × Text) :=
  match s with
  | [] => some (p, [])
  | '#' :: _ => some (p, s)
  | '\n' :: _ => some (p, s)
  | '\r' :: _ => some (p, s)
  | '[' :: '[' :: rest => p.header? [']', ']'] openElement rest
  | '[' :: rest => p.header? [']'] openTable rest
  | _ => p.pair? s

/-- Read lines, at most `most`. -/
def Partial.lines? (most : Nat) (p : Partial) (s : Text) : Option Entries :=
  match most with
  | 0 => none
  | most + 1 =>
    match p.expression? (dropSpaces s) with
    | none => none
    | some (p, behind) =>
      match dropComment behind with
      | [] => some p.entries
      | rest =>
        match newline? rest with
        | some rest => lines? most p rest
        | none => none

/-- The entries of a document. -/
def parse? (s : Text) : Option Entries :=
  Partial.lines? (s.length + 1) ⟨[], []⟩ s

end Toml

end Gemtext
