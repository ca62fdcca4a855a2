import Gemtext.Markdown.Scan

/-!
# HTML in Markdown

Scanners for the pieces of HTML that Markdown passes through: tags, comments, processing
instructions, declarations and character data sections.
-/

namespace Gemtext

namespace Markdown

/-- Whether the character may stand in the name of a tag, after its first letter. -/
def isTagNameChar (c : Char) : Bool :=
  c.isAlphanum || c == '-'

/-- What follows the name of a tag. -/
def tagName? : Text → Option Text
  | c :: rest => if c.isAlpha then some (rest.dropWhile isTagNameChar) else none
  | [] => none

/-- What follows the name of an attribute. -/
def attributeName? : Text → Option Text
  | c :: rest =>
    if c.isAlpha || c == '_' || c == ':' then
      some (rest.dropWhile fun c =>
        c.isAlphanum || c == ':' || c == '.' || c == '_' || c == '-')
    else none
  | [] => none

/-- The characters that an attribute value without quotes must not hold. -/
def quoteChars : List Char :=
  ['"', '\'', '=', '<', '>', '\x60']

/-- Whether the character may stand in an attribute value without quotes. -/
def isUnquotedChar (c : Char) : Bool :=
  !isSpaceChar c && !quoteChars.contains c

/-- What follows the value of an attribute. -/
def attributeValue? (s : Text) : Option Text :=
  let quoted (quote : Char) (rest : Text) : Option Text :=
    match rest.dropWhile (· != quote) with
    | _ :: rest => some rest
    | [] => none
  match s with
  | '"' :: rest => quoted '"' rest
  | '\'' :: rest => quoted '\'' rest
  | c :: rest => if isUnquotedChar c then some (rest.dropWhile isUnquotedChar) else none
  | [] => none

/-- What follows an attribute, which begins with white space. -/
def attribute? (s : Text) : Option Text :=
  match s with
  | c :: _ =>
    if isSpaceChar c then
      (attributeName? (dropWhite s)).bind fun rest =>
        match dropWhite rest with
        | '=' :: value => attributeValue? (dropWhite value)
        | _ => some rest
    else none
  | [] => none

/-- What follows as many attributes as there are, at most `most`. -/
def dropAttributes (most : Nat) (s : Text) : Text :=
  match most with
  | 0 => s
  | most + 1 =>
    match attribute? s with
    | some rest => dropAttributes most rest
    | none => s

/-- What follows an opening tag, of which the bracket has been read. -/
def openTag? (s : Text) : Option Text :=
  (tagName? s).bind fun rest =>
    match dropWhite (dropAttributes rest.length rest) with
    | '/' :: '>' :: rest => some rest
    | '>' :: rest => some rest
    | _ => none

/-- What follows a closing tag, of which the bracket has been read. -/
def closeTag? (s : Text) : Option Text :=
  match s with
  | '/' :: rest =>
    (tagName? rest).bind fun rest =>
      match dropWhite rest with
      | '>' :: rest => some rest
      | _ => none
  | _ => none

/-- What follows a tag, of which the bracket has been read. -/
def tag? (s : Text) : Option Text :=
  match closeTag? s with
  | some rest => some rest
  | none => openTag? s

/-- What follows the first `count` marks that stand before a closing bracket.  Marks before another
character are passed over together with it, so a mark too many keeps the piece open.  `skip` is the
number of characters that are still to be passed over. -/
def markedEnd? (mark : Char) (count skip : Nat) : Text → Option Text
  | [] => none
  | c :: rest =>
    match skip with
    | skip + 1 => markedEnd? mark count skip rest
    | 0 =>
      match Text.dropStart? (List.replicate count mark) (c :: rest) with
      | some ('>' :: behind) => some behind
      | some _ => markedEnd? mark count count rest
      | none => markedEnd? mark count 0 rest

/-- What follows a piece of inline HTML, of which the bracket has been read. -/
def inlineHtml? (s : Text) : Option Text :=
  match s with
  | '!' :: '-' :: '-' :: '>' :: rest => some rest
  | '!' :: '-' :: '-' :: '-' :: '>' :: rest => some rest
  | '!' :: '-' :: '-' :: rest => markedEnd? '-' 2 0 rest
  | '!' :: '[' :: rest =>
    if startsWithNoCase "cdata[".toList rest then markedEnd? ']' 2 0 (rest.drop 6) else none
  | '!' :: c :: rest => if c.isAlpha then after? ['>'] rest else none
  | '?' :: rest => markedEnd? '?' 1 0 rest
  | _ => tag? s

/-- What follows the uri of an autolink in brackets, of which the opening one has been read,
together with the uri. -/
def uriAutolink? (s : Text) : Option (Text × Text) :=
  let scheme := s.takeWhile fun c => c.isAlphanum || c == '+' || c == '.' || c == '-'
  match s.drop scheme.length with
  | ':' :: rest =>
    let body := rest.takeWhile fun c => !(c.toNat ≤ 0x20 || c == '<' || c == '>')
    match rest.drop body.length with
    | '>' :: behind =>
      if scheme.head?.any Char.isAlpha && 2 ≤ scheme.length && scheme.length ≤ 32 then
        some (scheme ++ ':' :: body, behind)
      else none
    | _ => none
  | _ => none

/-- Whether the text is a label of an email domain. -/
def isEmailLabel (s : Text) : Bool :=
  !s.isEmpty && s.length ≤ 63 && s.all (fun c => c.isAlphanum || c == '-') &&
    s.head? != some '-' && s.getLast? != some '-'

/-- What follows the email address of an autolink in brackets, of which the opening one has been
read, together with the address. -/
def emailAutolink? (s : Text) : Option (Text × Text) :=
  let address := s.takeWhile (· != '>')
  let name := address.takeWhile (· != '@')
  let isNameChar (c : Char) : Bool :=
    c.isAlphanum || ".!#$%&'*+/=?^_\x60\x7b|\x7d~-".toList.contains c
  match address.drop name.length, s.drop address.length with
  | '@' :: domain, '>' :: rest =>
    if !name.isEmpty && name.all isNameChar && (Text.splitOn '.' domain).all isEmailLabel then
      some (address, rest)
    else none
  | _, _ => none

end Markdown

end Gemtext
