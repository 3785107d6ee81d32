import ApiBindings.Web.Charset
import ApiBindings.Web.Deflate
import ApiBindings.Web.Redirect

/-!
# Replies from the web

What comes back from addresses.  A reply that sends the reader on may be followed, up to a number
of times; in the end only a success is of use.
-/

namespace ApiBindings

namespace Web

/-- A reply with its headers. -/
structure Reply where
  status : Int
  headers : List (String × String)
  text : String
deriving DecidableEq, Repr

/-- What comes back from an address: a reply, or the reason why there is none. -/
inductive Outcome where
  | reply (r : Reply)
  | unreachable (reason : String)
deriving DecidableEq, Repr

namespace Reply

/-- The value of a header, whose name may be written in small or capital letters. -/
def header? (r : Reply) (name : String) : Option String :=
  match r.headers.filter fun header => header.1.toLower == name with
  | [] => none
  | found => some (Text.join ", " (found.map (·.2)))

def location? (r : Reply) : Option String :=
  if isRedirect r.status then r.header? "location" else none

def hasPlainHeaders (r : Reply) : Bool :=
  r.headers.all fun header => Host.isAscii header.1.toList && Host.isAscii header.2.toList

def codings (r : Reply) : List (List Char) :=
  (Text.splitAtChar ',' ((r.header? "content-encoding").getD "").toList).map fun coding =>
    (Text.trim coding).map Char.toLower

/-- The content without a coding; an unknown coding changes nothing.  A text in UTF-8 never begins as
a gzip file does; only its first two bytes show that. -/
def withoutCoding (bytes : List UInt8) (coding : List Char) : Except Deflate.Fault (List UInt8) :=
  if coding = "gzip".toList then if bytes.length < 2 then .ok [] else .error .header
  else if coding = "deflate".toList then Deflate.inflated bytes
  else .ok bytes

def plainBytes (r : Reply) : Except Deflate.Fault (List UInt8) :=
  r.codings.reverse.foldlM withoutCoding (Text.toUtf8 r.text.toList)

/-- The text of the content; nothing if it cannot be read. -/
def content? (r : Reply) : Option String := do
  textAs? (r.header? "content-type") (← r.plainBytes.toOption)

end Reply

end Web

/-- What can be fetched, by address, what comes back from all other addresses, and whether redirects
are followed. -/
structure Web where
  outcomes : List (String × Web.Outcome)
  elsewhere : Web.Outcome
  followsRedirects : Bool

namespace Web

def outcome (w : Web) (url : String) : Outcome := (w.outcomes.lookup url).getD w.elsewhere

/-- The reply from an address, and the address that it sends the reader on to. -/
def exchange (w : Web) (a : Address) : Except Stop (Reply × Option Address) :=
  match w.outcome (String.ofList a.text) with
  | .unreachable reason => .error (.cause (.connection reason))
  | .reply r =>
    if !r.hasPlainHeaders then .error (.breakdown .unencodable)
    else
      match r.plainBytes with
      | .error fault => .error (.cause (.notCompressed fault))
      | .ok _ =>
        if !a.canReply then .error (.breakdown .reference)
        else
          match r.location? with
          | none => .ok (r, none)
          | some location => (a.follow location).map fun next => (r, some next)

/-- The reply from an address and the address it came from in the end, after at most `n`
redirects. -/
def request (w : Web) : Nat → Address → Except Stop (Reply × Address)
  | n, a =>
    match w.exchange a with
    | .error stop => .error stop
    | .ok (r, none) => .ok (r, a)
    | .ok (r, some next) =>
      if w.followsRedirects then
        match n with
        | 0 => .error (.cause .tooManyRedirects)
        | n + 1 => w.request n next
      else .ok (r, a)

def maxRedirects : Nat := 20

def fetch (w : Web) (source : String) : Except Stop Reply := do
  let (r, a) ← w.request maxRedirects (← Address.ofSource source)
  if isSuccess r.status then return r
  else throw (.cause (.status ⟨r.status, String.ofList a.text, r.location?⟩))

end Web

end ApiBindings
