import Gemtext.Url.Address

/-!
# Absolute urls

Whether a text is a url that needs no base: it begins with a scheme, and where the scheme calls
for a host and a port these are valid.  Blank and control characters around the url are dropped,
and tabs and newlines inside it do not count.
-/

namespace Gemtext

namespace Url

/-- Whether the character may follow the first letter of a scheme. -/
def isSchemeChar (c : Char) : Bool :=
  c.isAlphanum || c == '+' || c == '-' || c == '.'

/-- The scheme in small letters, and what follows its colon. -/
def splitScheme? (s : Text) : Option (Text × Text) :=
  match s with
  | [] => none
  | first :: _ =>
    match s.dropWhile isSchemeChar with
    | ':' :: rest =>
      if first.isAlpha then some (Text.asciiLower (s.takeWhile isSchemeChar), rest) else none
    | _ => none

/-- How the part after a scheme is read. -/
inductive SchemeKind where
  /-- The scheme of files. -/
  | file
  /-- A scheme whose urls always have a domain. -/
  | special
  | other
  deriving DecidableEq, Repr

/-- How the part after the given scheme is read. -/
def schemeKind (scheme : Text) : SchemeKind :=
  if scheme == "file".toList then .file
  else if (["http", "https", "ws", "wss", "ftp"].map String.toList).contains scheme then .special
  else .other

/-- Whether the character is a slash of either kind. -/
def isSlash (c : Char) : Bool :=
  c == '/' || c == '\\'

/-- Whether the character ends the authority; a backslash does in special schemes. -/
def endsAuthority (special : Bool) (c : Char) : Bool :=
  c == '/' || c == '?' || c == '#' || (special && c == '\\')

/-- The host at the start of the text: up to a colon outside of square brackets. -/
def takeHost (inBrackets : Bool) : Text → Text
  | [] => []
  | c :: rest =>
    if c == ':' && !inBrackets then []
    else c :: takeHost (if c == '[' then true else if c == ']' then false else inBrackets) rest

/-- Whether what follows a host is nothing, or a colon with a port number, which may be missing
and is below 65536.  A backslash ends the port in every scheme. -/
def isPortPart (s : Text) : Bool :=
  match s with
  | [] => true
  | _ :: port =>
    let digits := port.takeWhile (· != '\\')
    digits.all isDecimalDigit && digitsValue digits < 65536

/-- Whether user information shows in the url: a name or a password. -/
def hasUserInfo (user : Text) : Bool :=
  user != [] && user != [':']

/-- Whether an authority, which is what follows two slashes, is valid. -/
def isAuthority (special : Bool) (s : Text) : Bool :=
  let authority := s.takeWhile (!endsAuthority special ·)
  let hostAndPort := (authority.reverse.takeWhile (· != '@')).reverse
  let user? :=
    if hostAndPort.length < authority.length then
      some (authority.take (authority.length - hostAndPort.length - 1))
    else none
  let host := takeHost false hostAndPort
  let portPart := hostAndPort.drop host.length
  let validHost :=
    if special then !host.isEmpty && isDomainHost host
    else if host.isEmpty then
      portPart.isEmpty &&
        match user? with
        | none => true
        | some user => !hasUserInfo user && (!user.isEmpty || authority.length == s.length)
    else isOpaqueHost host
  validHost && isPortPart portPart

/-- Whether the text is a drive letter with a colon or a bar. -/
def isDriveLetter : Text → Bool
  | [letter, sep] => letter.isAlpha && (sep == ':' || sep == '|')
  | _ => false

/-- Whether what follows the scheme of files is valid: the host after two slashes may be empty or
a drive letter. -/
def isFilePart (s : Text) : Bool :=
  match s with
  | a :: b :: rest =>
    if isSlash a && isSlash b then
      let host := rest.takeWhile (!endsAuthority true ·)
      host.isEmpty || isDriveLetter host || isDomainHost host
    else true
  | _ => true

end Url

open Url in
/-- Whether the text is a url that needs no base. -/
def isAbsoluteUrl (s : Text) : Bool :=
  let control (c : Char) : Bool := c.toNat ≤ 0x20
  let trimmed := Text.dropEndWhile control (s.dropWhile control)
  let url := trimmed.filter fun c => c != '\t' && c != '\n' && c != '\r'
  match splitScheme? url with
  | none => false
  | some (scheme, rest) =>
    match schemeKind scheme with
    | .file => isFilePart rest
    | .special => isAuthority true (rest.dropWhile isSlash)
    | .other =>
      match rest with
      | '/' :: '/' :: authority => isAuthority false authority
      | _ => true

end Gemtext
