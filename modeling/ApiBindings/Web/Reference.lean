import ApiBindings.Text.Accent
import ApiBindings.Text.Basic
import ApiBindings.Web.Host.Numeric

/-!
# References

A reference is the text of an address, or of the parts in which it differs from another one, cut at
its delimiters.  Control characters and blanks in front are dropped, tabs and line ends anywhere.
A source is fetched from the web if it is a reference with the scheme `http` or `https` and an
authority.
-/

namespace ApiBindings.Web

open Host

/-! ## Sound authorities -/

/-- whether a host in brackets is sound: an address, or a future form `v<hex>.<anything>` -/
def isBracketedHost (host : List Char) : Bool :=
  match host with
  | 'v' :: rest =>
    let version := rest.takeWhile fun c => (Text.hexDigit? c).isSome
    match rest.drop version.length with
    | '.' :: _ :: _ => !version.isEmpty
    | _ => false
  | _ => isZonedAddress host

/-- whether the brackets of an authority are sound: they stand around the host, which starts behind
the user and ends at a port -/
def soundBrackets (authority : List Char) : Bool :=
  match authority.contains '[', authority.contains ']' with
  | false, false => true
  | true, true =>
    match Text.afterLastChar '@' authority with
    | '[' :: rest =>
      let host := rest.takeWhile (· != ']')
      isBracketedHost host &&
        match rest.drop (host.length + 1) with
        | c :: _ => c == ':'
        | [] => true
    | site => !site.contains '[' && isBracketedHost (site.takeWhile (· != ':'))
  | _, _ => false

/-- whether no character of an authority hides a delimiter in its compatibility form -/
def soundCharacters (authority : List Char) : Bool :=
  let own := authority.filter fun c => c != '@' && c != ':' && c != '#' && c != '?'
  !(Text.stripAccents own).any fun c => c == '/' || c == '?' || c == '#' || c == '@' || c == ':'

/-! ## Cutting -/

/-- A reference in its parts; a part that is not there is empty. -/
structure Reference where
  scheme : List Char
  authority : List Char
  path : List Char
  query : List Char
  fragment : List Char
deriving DecidableEq, Repr

/-- The scheme in lower case and what follows it. -/
def splitScheme? (s : List Char) : Option (List Char × List Char) :=
  let scheme := s.takeWhile (· != ':')
  match scheme, s.drop scheme.length with
  | first :: _, ':' :: rest =>
    if first.isAlpha && scheme.all fun c => c.isAlphanum || c == '+' || c == '-' || c == '.' then
      some (scheme.map Char.toLower, rest)
    else none
  | _, _ => none

def splitBefore (stops : List Char) (s : List Char) : List Char × List Char :=
  s.span fun c => !stops.contains c

def splitAuthority : List Char → List Char × List Char
  | '/' :: '/' :: rest => splitBefore ['/', '?', '#'] rest
  | s => ([], s)

namespace Reference

/-- Cuts a text; without a scheme of its own it has the given one.  A text with a malformed authority
is no reference. -/
def ofText? (scheme text : List Char) : Option Reference :=
  let s := (text.dropWhile fun c => c.toNat ≤ 0x20).filter
    fun c => c != '\t' && c != '\r' && c != '\n'
  let (scheme, rest) := (splitScheme? s).getD (scheme, s)
  let (authority, rest) := splitAuthority rest
  if soundBrackets authority && soundCharacters authority then
    let (beforeFragment, fragment) := splitBefore ['#'] rest
    let (path, query) := splitBefore ['?'] beforeFragment
    some ⟨scheme, authority, path, query.drop 1, fragment.drop 1⟩
  else none

def authorityAndPath (r : Reference) : List Char :=
  match r.authority, r.path with
  | [], path => path
  | authority, [] => "//".toList ++ authority
  | authority, '/' :: path => "//".toList ++ authority ++ '/' :: path
  | authority, path => "//".toList ++ authority ++ '/' :: path

/-- The text of a reference; a query or fragment that is empty leaves no delimiter. -/
def text (r : Reference) : List Char :=
  (if r.scheme.isEmpty then [] else r.scheme ++ [':']) ++ r.authorityAndPath ++
    (if r.query.isEmpty then [] else '?' :: r.query) ++
    if r.fragment.isEmpty then [] else '#' :: r.fragment

end Reference

def isUrl (text : String) : Bool :=
  match Reference.ofText? [] text.toList with
  | some r => (r.scheme == "http".toList || r.scheme == "https".toList) && !r.authority.isEmpty
  | none => false

/-! ## Joining -/

def relativeSchemes : List String :=
  ["", "ftp", "http", "gopher", "nntp", "imap", "wais", "file", "https", "shttp", "mms", "prospero",
    "rtsp", "rtsps", "rtspu", "sftp", "svn", "svn+ssh", "ws", "wss"]

def parameterSchemes : List String :=
  ["", "ftp", "hdl", "prospero", "http", "imap", "https", "shttp", "rtsp", "rtsps", "rtspu", "sip",
    "sips", "mms", "sftp", "tel"]

/-- The path without its parameters, and the parameters behind a semicolon in the last segment. -/
def Reference.pathParts (r : Reference) : List Char × List Char :=
  if parameterSchemes.contains (String.ofList r.scheme) then
    let last := Text.afterLastChar '/' r.path
    let kept := last.takeWhile (· != ';')
    (r.path.take (r.path.length - last.length + kept.length), last.drop (kept.length + 1))
  else (r.path, [])

def withParameters (path parameters : List Char) : List Char :=
  if parameters.isEmpty then path else path ++ ';' :: parameters

/-- The segments of a path without `.` and `..`, the last one first in `done`; a `..` takes the
segment before it away. -/
def withoutDots (done : List (List Char)) : List (List Char) → List (List Char)
  | [] => done.reverse
  | segment :: rest =>
    if segment = ['.'] then withoutDots done rest
    else if segment = ['.', '.'] then withoutDots (done.drop 1) rest
    else withoutDots (segment :: done) rest

def isDots (segment : List Char) : Bool := segment == ['.'] || segment == ['.', '.']

/-- The list without the empty members that are neither first nor last. -/
def dropInnerEmpty : List (List Char) → List (List Char)
  | [] => []
  | first :: rest => first :: (rest.dropLast.filter (!·.isEmpty) ++ rest.drop (rest.length - 1))

/-- The path that a path leads to from the path `base`. -/
def joinPaths (base path : List Char) : List Char :=
  let segments := Text.splitAtChar '/' path
  let segments :=
    if path.head? = some '/' then segments
    else
      let folder := Text.splitAtChar '/' base
      dropInnerEmpty ((if folder.getLast? = some [] then folder else folder.dropLast) ++ segments)
  let ending := if isDots (segments.getLast?.getD []) then [[]] else []
  let joined := Text.joinAtChar '/' (withoutDots [] segments ++ ending)
  if joined.isEmpty then ['/'] else joined

/-- The text of the address that a text leads to from the address `base`; nothing if one of them is
malformed. -/
def joinTexts? (base text : List Char) : Option (List Char) :=
  if base.isEmpty then some text
  else if text.isEmpty then some base
  else do
    let b ← Reference.ofText? [] base
    let r ← Reference.ofText? b.scheme text
    if r.scheme ≠ b.scheme ∨ !relativeSchemes.contains (String.ofList r.scheme) then return text
    else
      let (path, parameters) := r.pathParts
      if !r.authority.isEmpty then return { r with path := withParameters path parameters }.text
      else
        let (basePath, baseParameters) := b.pathParts
        let r := { r with authority := b.authority }
        if path.isEmpty && parameters.isEmpty then
          return { r with
            path := withParameters basePath baseParameters
            query := if r.query.isEmpty then b.query else r.query }.text
        else return { r with path := withParameters (joinPaths basePath path) parameters }.text

end ApiBindings.Web
