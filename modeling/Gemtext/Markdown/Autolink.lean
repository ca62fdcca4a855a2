import Gemtext.Markdown.Node
import Gemtext.Markdown.Scan

/-!
# Addresses in plain text

Web and email addresses in the text of a document become links.  The text is searched from left to
right, outside of square brackets: a colon may follow a scheme, a `w` may begin a host, and an at
sign may stand in an email address.

An address runs to the next white space, or for email to the end of the domain; punctuation at its
end is left out.
-/

namespace Gemtext

namespace Markdown

/-- Whether the character may stand in a label of a host. -/
def isHostChar (c : Char) : Bool :=
  c == '-' || !(isBlank c || isPunctuation c)

/-- Whether a text begins with a host.  `dots` counts the dots so far; `before` and `current` count
the underscores in the last two labels, which must have none.  A host needs a dot unless `short`
ones are allowed. -/
def startsWithHost (short : Bool) (dots before current : Nat) : Text → Bool
  | [] => (before + current == 0 || 10 < dots) && (short || 0 < dots)
  | c :: rest =>
    if c = '\\' && !rest.isEmpty then startsWithHost short dots before current rest
    else if c = '_' then startsWithHost short dots before (current + 1) rest
    else if c = '.' then startsWithHost short (dots + 1) current 0 rest
    else if isHostChar c then startsWithHost short dots before current rest
    else before + current == 0 && (short || 0 < dots)

/-- Drop what does not belong to an address from its end, which is given in reverse, in at most
`most` steps: punctuation, an entity, and closing parentheses that were not opened. -/
def dropTail (most : Nat) (s : Text) : Text :=
  match most, s with
  | 0, _ => s
  | _, [] => []
  | most + 1, c :: rest =>
    if "?!.,:*_~'\"".toList.contains c then dropTail most rest
    else if c = ';' then
      let name := rest.takeWhile Char.isAlpha
      match name, rest.drop name.length with
      | _ :: _, '&' :: before => dropTail most before
      | _, _ => dropTail most rest
    else if c = ')' && s.count '(' < s.count ')' then dropTail most rest
    else s

/-- The part of a text that belongs to the address that it begins with. -/
def addressEnd (s : Text) : Text :=
  let cut := s.takeWhile (· != '<')
  (dropTail cut.length cut.reverse).reverse

/-- An address that was found in a text. -/
structure FoundAddress where
  /-- How many characters before the place of the search belong to it. -/
  back : Nat
  /-- How many characters from the place of the search on belong to it. -/
  ahead : Nat
  /-- What the target has before the address. -/
  addition : Text
  deriving DecidableEq, Repr

/-- The web address around a colon: `before` is what stands before it, in reverse. -/
def urlAt? (before rest : Text) : Option FoundAddress :=
  match rest with
  | ':' :: '/' :: '/' :: host =>
    let scheme := (before.takeWhile Char.isAlpha).reverse
    if !host.isEmpty && (["http", "https", "ftp"].map String.toList).contains scheme &&
        startsWithHost true 0 0 0 host then
      some ⟨scheme.length, (addressEnd (rest.takeWhile (!isSpaceChar ·))).length, []⟩
    else none
  | _ => none

/-- The web address without a scheme that begins here. -/
def hostAt? (before rest : Text) : Option FoundAddress :=
  let free :=
    match before with
    | [] => true
    | c :: _ => isSpaceChar c || "*_~([".toList.contains c
  if free && "www.".toList.isPrefixOf rest && startsWithHost false 0 0 0 rest then
    some ⟨0, (addressEnd (rest.takeWhile (!isSpaceChar ·))).length, "http://".toList⟩
  else none

/-- Whether the character may stand in an email address before the at sign. -/
def isMailboxChar (c : Char) : Bool :=
  c.isAlphanum || c == '.' || c == '+' || c == '-' || c == '_'

/-- How many characters before an at sign belong to the email address, and the scheme that was
written with it; the text before the sign is given in reverse. -/
def mailboxLength (before : Text) : Nat × Text :=
  let mailbox := before.takeWhile isMailboxChar
  match before.drop mailbox.length with
  | ':' :: rest =>
    let scheme := rest.takeWhile Char.isAlpha
    if scheme.reverse = "mailto".toList || scheme.reverse = "xmpp".toList then
      (mailbox.length + 1 + (rest.takeWhile isMailboxChar).length, scheme.reverse)
    else (mailbox.length, [])
  | _ => (mailbox.length, [])

/-- The domain of an email address, with the part of a resource if `slashes` are allowed: its
length and the number of dots.  A second at sign spoils the address. -/
def mailDomain? (slashes : Bool) : Text → Option (Nat × Nat)
  | [] => some (0, 0)
  | c :: rest =>
    let more (dots : Nat) := (mailDomain? slashes rest).map fun (n, d) => (n + 1, d + dots)
    if c.isAlphanum || c == '-' || c == '_' then more 0
    else if c = '@' then none
    else if c = '.' && rest.head?.any Char.isAlphanum then more 1
    else if c = '/' && slashes then more 0
    else some (0, 0)

/-- The email address around an at sign. -/
def mailAt? (before rest : Text) : Option FoundAddress :=
  match rest with
  | '@' :: domain =>
    let (back, scheme) := mailboxLength before
    match mailDomain? (scheme == "xmpp".toList) domain with
    | some (length, dots) =>
      let address := '@' :: domain.take length
      let ending := address.getLast?.any fun c => c.isAlpha || c == '.'
      if back != 0 && length != 0 && dots != 0 && ending then
        let ahead := (addressEnd address).length
        if ahead = 0 then none
        else some ⟨back, ahead, if scheme.isEmpty then "mailto:".toList else []⟩
      else none
    | none => none
  | _ => none

/-- The address at a place in a text. -/
def addressAt? (before rest : Text) : Option FoundAddress :=
  match rest with
  | ':' :: _ => urlAt? before rest
  | 'w' :: _ => hostAt? before rest
  | '@' :: _ => mailAt? before rest
  | _ => none

/-- The first address in a text, outside of `depth` open brackets: what stands before the place
where it was found, in reverse, the address, and what stands from that place on. -/
def firstAddress? (depth : Int) (before : Text) : Text → Option (Text × FoundAddress × Text)
  | [] => none
  | c :: rest =>
    let depth := if c = '[' then depth + 1 else if c = ']' then depth - 1 else depth
    match if 0 < depth then none else addressAt? before (c :: rest) with
    | some found => some (before, found, c :: rest)
    | none => firstAddress? depth (c :: before) rest

/-- The nodes of a text whose first `most` addresses are links. -/
def linkAddresses (most : Nat) (s : Text) : List Node :=
  let plain (s : Text) : List Node := if s.isEmpty then [] else [.mk (.text s) []]
  match most with
  | 0 => plain s
  | most + 1 =>
    match firstAddress? 0 [] s with
    | none => plain s
    | some (before, found, rest) =>
      let address := (before.take found.back).reverse ++ rest.take found.ahead
      plain (before.drop found.back).reverse ++
        .mk (.link (found.addition ++ address)) [.mk (.text address) []] ::
          linkAddresses most (rest.drop found.ahead)

mutual

/-- Link the addresses in the text of a node, in which no two texts are neighbours.  Links and
images are left as they are. -/
def linkInNode : Node → List Node
  | .mk kind children =>
    match kind with
    | .text s => linkAddresses s.length s
    | .link _ => [.mk kind children]
    | .image _ => [.mk kind children]
    | _ => [.mk kind (linkInNodes children)]

/-- Link the addresses in the texts of nodes. -/
def linkInNodes : List Node → List Node
  | [] => []
  | node :: nodes => linkInNode node ++ linkInNodes nodes

end

end Markdown

end Gemtext
