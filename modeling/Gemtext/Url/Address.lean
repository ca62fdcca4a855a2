import Gemtext.Url.Domain

/-!
# Numeric addresses in urls

A host in square brackets is an IPv6 address, and a domain whose last label is a number is an
IPv4 address; `isHost` decides whether such a host, or a domain name, is valid.
-/

namespace Gemtext

namespace Url

/-- The number that a text of digits denotes in the given base, if all are digits of it. -/
def valueInBase? (base : Nat) (digits : Text) : Option Nat :=
  digits.foldl
    (fun value c => do
      let n ← value
      let d ← hexDigitValue? c
      if d < base then some (base * n + d) else none)
    (some 0)

/-- The number that one part of an IPv4 address denotes: hexadecimal after `0x`, octal after `0`,
and else decimal. -/
def addressPart? (part : Text) : Option Nat :=
  match part with
  | [] => none
  | '0' :: 'x' :: digits => valueInBase? 16 digits
  | '0' :: 'X' :: digits => valueInBase? 16 digits
  | '0' :: d :: digits => valueInBase? 8 (d :: digits)
  | digits => valueInBase? 10 digits

/-- The parts of a domain, without the empty one after a final dot. -/
def domainParts (domain : Text) : List Text :=
  let parts := Text.splitOn '.' domain
  if parts.getLast? = some [] then parts.dropLast else parts

/-- Whether the domain has to be an IPv4 address. -/
def endsInNumber (domain : Text) : Bool :=
  match (domainParts domain).getLast? with
  | none => false
  | some part =>
    (!part.isEmpty && part.all isDecimalDigit) || (addressPart? part).isSome

/-- Whether the domain is an IPv4 address: up to four numbers, each but the last one below 256,
the last one filling the remaining bytes. -/
def isIpv4 (domain : Text) : Bool :=
  let parts := domainParts domain
  match (parts.mapM addressPart?).map List.reverse with
  | some (last :: others) =>
    parts.length ≤ 4 && others.all (· < 256) && last < twoTo (8 * (4 - others.length))
  | _ => false

/-- Whether the text is four decimal numbers below 256, without leading zeros, between dots. -/
def isDottedQuad (s : Text) : Bool :=
  let parts := Text.splitOn '.' s
  parts.length == 4 && parts.all fun part =>
    !part.isEmpty && part.all isDecimalDigit && digitsValue part < 256 &&
      (part.length == 1 || part.head? != some '0')

/-- The number of sixteen-bit pieces in a list of hexadecimal groups, where the last group may be
an IPv4 address. -/
def pieceCount? : List Text → Option Nat
  | [] => some 0
  | group :: rest =>
    if rest.isEmpty && isDottedQuad group then some 2
    else if !group.isEmpty && group.length ≤ 4 && (valueInBase? 16 group).isSome then
      (pieceCount? rest).map (· + 1)
    else none

/-- The pieces in a part of an IPv6 address next to its double colon; the part may be empty. -/
def sidePieceCount? (s : Text) : Option Nat :=
  if s.isEmpty then some 0 else pieceCount? (Text.splitOn ':' s)

/-- Cut a text at its first double colon. -/
def splitDoubleColon? : Text → Option (Text × Text)
  | ':' :: ':' :: rest => some ([], rest)
  | c :: rest => (splitDoubleColon? rest).map fun (before, after) => (c :: before, after)
  | [] => none

/-- Whether the text is an IPv6 address: eight pieces, or fewer with a double colon for the
missing ones. -/
def isIpv6 (s : Text) : Bool :=
  match splitDoubleColon? s with
  | none => pieceCount? (Text.splitOn ':' s) == some 8
  | some (before, after) =>
    match sidePieceCount? before, sidePieceCount? after with
    | some m, some n => !(before.contains '.') && m + n ≤ 7
    | _, _ => false

/-- The address between square brackets. -/
def bracketed? (host : Text) : Option Text :=
  (Text.dropStart? ['['] host).bind (Text.dropEnd? [']'])

/-- Whether the host is a valid one for a scheme whose hosts are domains. -/
def isDomainHost (host : Text) : Bool :=
  if host.head? = some '[' then (bracketed? host).any isIpv6
  else
    match domain? host with
    | none => false
    | some domain => !endsInNumber domain || isIpv4 domain

/-- Whether the host is a valid one for a scheme that does not look into hosts. -/
def isOpaqueHost (host : Text) : Bool :=
  if host.head? = some '[' then (bracketed? host).any isIpv6
  else !host.any isForbiddenInHost

end Url

end Gemtext
