import ApiBindings.Document.Literal
import ApiBindings.Number.Reading
import ApiBindings.Text.LowerCase
import ApiBindings.Web.Host.Name
import ApiBindings.Web.Host.Numeric

/-!
# Addresses

The address that a request goes to, in its normal form: the scheme and the host are in lower case,
the port is left out if it is the usual one, dots in the path are resolved, and characters that
cannot be sent are percent-encoded.
-/

namespace ApiBindings.Web

open Host

/-! ## Faults -/

/-- Why a text is no address. -/
inductive AddressFault where
  | tooLong
  | unprintable (c : Char) (index : Nat)
  | port (text : List Char)
  | quad (host : List Char)
  | bracketed (host : List Char)
  | hostName (host : List Char)
  | pathWithoutSlash
  | pathWithTwoSlashes
  | pathWithColon
deriving DecidableEq, Repr

/-- The text about a fault. -/
def AddressFault.message : AddressFault → String
  | tooLong => "URL too long"
  | unprintable c index =>
    "Invalid non-printable ASCII character in URL, " ++ textLiteral (String.singleton c) ++
      " at position " ++ toString index ++ "."
  | port text => "Invalid port: " ++ textLiteral (String.ofList text)
  | quad host => "Invalid IPv4 address: " ++ textLiteral (String.ofList host)
  | bracketed host => "Invalid IPv6 address: " ++ textLiteral (String.ofList host)
  | hostName host => "Invalid IDNA hostname: " ++ textLiteral (String.ofList host)
  | pathWithoutSlash => "For absolute URLs, path must be empty or begin with '/'"
  | pathWithTwoSlashes => "Relative URLs cannot have a path starting with '//'"
  | pathWithColon => "Relative URLs cannot have a path starting with ':'"

/-! ## Percent-encoding -/

def upperHexDigit (n : Nat) : Char := (Text.hexDigitChar n).toUpper

def percentEncoded (c : Char) : List Char :=
  (String.utf8EncodeChar c).flatMap fun b =>
    ['%', upperHexDigit (b.toNat / 16), upperHexDigit (b.toNat % 16)]

def encodeUnsafe (isSafe : Char → Bool) (s : List Char) : List Char :=
  s.flatMap fun c => if isSafe c then [c] else percentEncoded c

def isVisibleBut (others : String) (c : Char) : Bool :=
  0x21 ≤ c.toNat && c.toNat ≤ 0x7E && !others.toList.contains c

def isQueryChar : Char → Bool := isVisibleBut "\"#<>"

def isFragmentChar : Char → Bool := isVisibleBut "\"<>`"

def isPathChar : Char → Bool := isVisibleBut "\"#<>?`\x7b\x7d"

/-- whether a character can stand in what is said about the user -/
def isUserChar (c : Char) : Bool := isPathChar c && isVisibleBut "/;=@[\\]^|" c

def isHostChar (c : Char) : Bool :=
  c.isAlphanum || "-._~!$&'()*+,;=\"`\x7b\x7d%|\\".toList.contains c

/-! ## Parts as written -/

/-- The parts of an address as they are written. -/
structure AddressParts where
  scheme : List Char
  authority : List Char
  path : List Char
  query : Option (List Char)
  fragment : Option (List Char)
deriving DecidableEq, Repr

/-- Cuts an optional scheme off, which may be empty. -/
def cutScheme (s : List Char) : List Char × List Char :=
  let scheme := s.takeWhile fun c => c.isAlphanum || c == '+' || c == '-' || c == '.'
  match s.drop scheme.length, scheme.head? with
  | ':' :: rest, none => ([], rest)
  | ':' :: rest, some first => if first.isAlpha then (scheme, rest) else ([], s)
  | _, _ => ([], s)

def behind? (mark : Char) : List Char → Option (List Char)
  | [] => none
  | c :: rest => if c = mark then some rest else none

/-- Cuts a text at its delimiters. -/
def AddressParts.ofText (s : List Char) : AddressParts :=
  let (scheme, rest) := cutScheme s
  let (authority, rest) := match rest with
    | '/' :: '/' :: rest => rest.span fun c => c != '/' && c != '?' && c != '#'
    | _ => ([], rest)
  let (path, rest) := rest.span fun c => c != '?' && c != '#'
  let (query, fragment) := rest.span (· != '#')
  ⟨scheme, authority, path, behind? '?' query, behind? '#' fragment⟩

structure Authority where
  user : List Char
  host : List Char
  port : List Char
deriving DecidableEq, Repr

/-- Cuts an authority: the user ends at the last `@`, the host at a colon or, if it begins with a
bracket, at the last bracket. -/
def Authority.ofText (s : List Char) : Authority :=
  let site := Text.afterLastChar '@' s
  let user := s.take (s.length - site.length - 1)
  let host :=
    if site.head? = some '[' ∧ site.contains ']' then
      site.take (site.length - (Text.afterLastChar ']' site).length)
    else site.takeWhile (· != ':')
  let port := site.drop host.length
  ⟨user, host, (behind? ':' port).getD port⟩

/-! ## The normal form of each part -/

/-- The host in its normal form, without brackets. -/
def normalHost (host : List Char) : Except AddressFault (List Char) :=
  if host.isEmpty then .ok []
  else if looksLikeQuad host then
    if isDottedQuad host then .ok host else .error (.quad host)
  else if host.head? = some '[' ∧ host.getLast? = some ']' then
    let inner := (host.drop 1).dropLast
    if isZonedAddress inner then .ok inner else .error (.bracketed host)
  else if isAscii host then .ok (encodeUnsafe isHostChar (host.map Char.toLower))
  else
    match sentName (Text.lower host) with
    | .ok sent => .ok sent
    | .error _ => .error (.hostName host)

def usualPort? (scheme : List Char) : Option Int :=
  [("ftp".toList, 21), ("http".toList, 80), ("https".toList, 443), ("ws".toList, 80),
    ("wss".toList, 443)].lookup scheme

/-- The port, unless it is the usual one. -/
def normalPort (scheme text : List Char) : Except AddressFault (Option Int) :=
  if text.isEmpty then .ok none
  else
    match integer? 10 text with
    | none => .error (.port text)
    | some n => .ok (if usualPort? scheme = some n then none else some n)

/-- The segments of a path without `.` and `..`, the last one first in `done`; a `..` takes the
segment before it away, but not the empty one in front of the first slash. -/
def resolveDots (done : List (List Char)) : List (List Char) → List (List Char)
  | [] => done.reverse
  | segment :: rest =>
    if segment = ['.'] then resolveDots done rest
    else if segment = ['.', '.'] then
      resolveDots (if done = [[]] then done else done.drop 1) rest
    else resolveDots (segment :: done) rest

def normalPath (path : List Char) : List Char :=
  Text.joinAtChar '/' (resolveDots [] (Text.splitAtChar '/' path))

/-! ## Addresses -/

/-- An address in its normal form. -/
structure Address where
  scheme : List Char
  user : List Char
  host : List Char
  port : Option Int
  path : List Char
  query : Option (List Char)
  fragment : Option (List Char)
deriving DecidableEq, Repr

def maxAddressLength : Nat := 65536

/-- Checks the length and the characters of a text. -/
def checkText (s : List Char) : Except AddressFault Unit :=
  if maxAddressLength < s.length then .error .tooLong
  else
    match s.findIdx? fun c => c.toNat < 0x20 || c.toNat == 0x7F with
    | some i => .error (.unprintable (s.getD i ' ') i)
    | none => .ok ()

/-- Checks a path against the parts in front of it. -/
def checkPath (hasScheme hasAuthority : Bool) (path : List Char) : Except AddressFault Unit :=
  match hasAuthority, hasScheme, path with
  | true, _, c :: _ => if c = '/' then .ok () else .error .pathWithoutSlash
  | false, false, '/' :: '/' :: _ => .error .pathWithTwoSlashes
  | false, false, ':' :: _ => .error .pathWithColon
  | _, _, _ => .ok ()

namespace Address

/-- The address of parts, with the given host instead of their own. -/
def ofParts (p : AddressParts) (host? : Option (List Char)) : Except AddressFault Address := do
  let a := Authority.ofText p.authority
  let host ← normalHost (host?.getD a.host)
  let port ← normalPort p.scheme a.port
  let user := encodeUnsafe isUserChar a.user
  let hasScheme := !p.scheme.isEmpty
  let hasAuthority := !user.isEmpty || !host.isEmpty || port.isSome
  checkPath hasScheme hasAuthority p.path
  let path := if hasScheme || hasAuthority then normalPath p.path else p.path
  return {
    scheme := p.scheme.map Char.toLower
    user := user
    host := host
    port := port
    path := encodeUnsafe isPathChar path
    query := p.query.map (encodeUnsafe isQueryChar)
    fragment := p.fragment.map (encodeUnsafe isFragmentChar) }

def read (text : List Char) : Except AddressFault Address := do
  checkText text
  ofParts (AddressParts.ofText text) none

/-- The host and port as they are written. -/
def site (a : Address) : List Char :=
  (if a.host.contains ':' then '[' :: a.host ++ [']'] else a.host) ++
    match a.port with
    | some n => ':' :: (toString n).toList
    | none => []

def authority (a : Address) : List Char :=
  (if a.user.isEmpty then [] else a.user ++ ['@']) ++ a.site

def pathAndQuery (a : Address) : List Char :=
  a.path ++ match a.query with
    | some query => '?' :: query
    | none => []

def text (a : Address) : List Char :=
  (if a.scheme.isEmpty then [] else a.scheme ++ [':']) ++
    (if a.authority.isEmpty then [] else "//".toList ++ a.authority) ++ a.pathAndQuery ++
    match a.fragment with
    | some fragment => '#' :: fragment
    | none => []

def parts (a : Address) : AddressParts := ⟨a.scheme, a.authority, a.path, a.query, a.fragment⟩

/-- The address with other parts, read anew. -/
def withParts (p : AddressParts) (host? : Option (List Char)) : Except AddressFault Address := do
  checkText p.scheme
  checkText p.authority
  checkText p.path
  checkText (p.query.getD [])
  checkText (p.fragment.getD [])
  checkText (host?.getD [])
  ofParts p host?

def withHost (a : Address) (host : List Char) : Except AddressFault Address :=
  withParts a.parts
    (some (if host.contains ':' && !(host.head? == some '[' && host.getLast? == some ']') then
      '[' :: host ++ [']'] else host))

def withFragment (a : Address) (fragment : List Char) : Except AddressFault Address :=
  withParts { a.parts with fragment := some fragment } none

def isAbsolute (a : Address) : Bool := !a.scheme.isEmpty && !a.host.isEmpty

def shownHost (a : Address) : Except Fault (List Char) :=
  if punycodeMark.isPrefixOf a.host then shownName a.host else .ok a.host

end Address

end ApiBindings.Web
