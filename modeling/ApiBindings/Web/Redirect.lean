import ApiBindings.Interruption
import ApiBindings.Text.Utf8
import ApiBindings.Web.Reference

/-!
# Addresses to ask

The address that is asked for a source, and the one that a reply sends the reader on to.  A location
may be given in full, or only the parts that differ from the address asked before.
-/

namespace ApiBindings.Web

/-- Why nothing is fetched: for a cause that can be told, or in a breakdown. -/
inductive Stop where
  | cause (c : Cause)
  | breakdown (b : Breakdown)
deriving DecidableEq, Repr

namespace Address

def remade (a : Except AddressFault Address) : Except Stop Address :=
  a.mapError fun _ => .breakdown .address

def knownHost (a : Address) : Except Stop (List Char) :=
  a.shownHost.mapError fun fault => .breakdown (.hostName fault)

def checkSent (a : Address) : Except Stop Unit := do
  let host ← a.knownHost
  if !host.isEmpty && !Host.isAscii a.site then throw (.breakdown .unencodable)

/-- The address that is asked for a source.  One that does not say where to send a request keeps its
path and query only. -/
def ofSource (source : String) : Except Stop Address := do
  let a ← remade (read source.toList)
  let a ←
    if a.isAbsolute then pure a
    else remade (withParts ⟨[], [], '/' :: (a.path.dropWhile (· == '/')), a.query, none⟩ none)
  a.checkSent
  return a

/-- The bytes of a percent-encoded text in ASCII. -/
def decodedBytes : List Char → List UInt8
  | '%' :: a :: b :: rest =>
    match Text.hexDigit? a, Text.hexDigit? b with
    | some high, some low => (16 * high + low).toUInt8 :: decodedBytes rest
    | _, _ => '%'.toNat.toUInt8 :: decodedBytes (a :: b :: rest)
  | c :: rest => c.toNat.toUInt8 :: decodedBytes rest
  | [] => []
termination_by s => s.length

def plainFragment (a : Address) : List Char :=
  Text.ofUtf8 (decodedBytes (a.fragment.getD []))

/-- A target with a scheme but without a host gets the host of the address asked before. -/
def hosted (base target : Address) : Except Stop Address :=
  if target.scheme.isEmpty then .ok target
  else do
    let host ← target.knownHost
    if host.isEmpty then remade (target.withHost (← base.knownHost)) else return target

/-- A target that does not say where to send a request is joined to the address asked before. -/
def joined (base target : Address) : Except Stop Address :=
  if target.isAbsolute then .ok target
  else
    match joinTexts? base.text target.text with
    | none => .error (.breakdown .reference)
    | some text => remade (read text)

/-- The address that a location leads to; the fragment asked for before stays unless there is a new
one. -/
def follow (base : Address) (location : String) : Except Stop Address := do
  let target ← (read location.toList).mapError fun fault => .cause (.badLocation fault)
  let next ← base.joined (← base.hosted target)
  let next ←
    if (base.fragment.getD []).isEmpty || !(next.fragment.getD []).isEmpty then pure next
    else remade (next.withFragment base.plainFragment)
  next.checkSent
  return next

/-- whether a reply can come from an address: it begins with a word and a colon -/
def canReply (a : Address) : Bool :=
  match a.text.span (· != ':') with
  | (word, _ :: _) => !word.isEmpty && !word.contains '/'
  | (_, []) => false

end Address

end ApiBindings.Web
