import ApiBindings.Text.CharTable

/-!
# Numeric hosts

Hosts given by numbers: four octets with points between them, or groups of hexadecimal digits with
colons between them.
-/

namespace ApiBindings.Web.Host

/-- whether a text is a decimal number from 0 to 255 without zeros in front -/
def isOctet (s : List Char) : Bool :=
  !s.isEmpty && s.all Char.isDigit && s.length ≤ 3 && (s == ['0'] || s.head? != some '0') &&
    s.foldl (fun n d => 10 * n + (d.toNat - 48)) 0 ≤ 255

def isDottedQuad (s : List Char) : Bool :=
  let parts := Text.splitAtChar '.' s
  parts.length == 4 && parts.all isOctet

def isHexGroup (s : List Char) : Bool :=
  !s.isEmpty && s.length ≤ 4 && s.all fun c => (Text.hexDigit? c).isSome

/-- The groups of an address, a dotted quad at the end counted as two of them. -/
def hexGroups? (s : List Char) : Option (List (List Char)) :=
  let parts := Text.splitAtChar ':' s
  if parts.length < 3 then none
  else
    let last := parts.getLast?.getD []
    if last.contains '.' then
      if isDottedQuad last then some (parts.dropLast ++ [['0'], ['0']]) else none
    else some parts

/-- The groups before and after the first empty one that is not at an end. -/
def splitAtGap : List (List Char) → Option (List (List Char) × List (List Char))
  | [] => none
  | [_] => none
  | [_, _] => none
  | first :: [] :: rest => some ([first], rest)
  | first :: rest => (splitAtGap rest).map fun (before, after) => (first :: before, after)

/-- whether the groups beside a gap are sound: an empty one stands only at the far end and then
alone -/
def soundSide (groups : List (List Char)) : Bool := groups == [[]] || groups.all isHexGroup

/-- whether a text without a zone is an address of eight groups, a gap standing for one or more
groups of zero -/
def isColonAddress (s : List Char) : Bool :=
  match hexGroups? s with
  | none => false
  | some groups =>
    match splitAtGap groups with
    | none => groups.length == 8 && groups.all isHexGroup
    | some (before, after) =>
      let size (side : List (List Char)) : Nat := if side == [[]] then 0 else side.length
      groups.length ≤ 9 && (splitAtGap ([] :: after)).isNone && soundSide before &&
        soundSide after && size before + size after < 8

/-- whether a text is an address with an optional zone after a percent sign -/
def isZonedAddress (s : List Char) : Bool :=
  let address := s.takeWhile (· != '%')
  match s.drop address.length with
  | [] => isColonAddress address
  | _ :: zone => !zone.isEmpty && !zone.contains '%' && isColonAddress address

/-- What a text can have been read as so far by the pattern of four numbers with any one character
between neighbours: how many of these characters are still to come, and whether a digit was last. -/
abbrev QuadStates := List (Nat × Bool)

def quadStep (states : QuadStates) (c : Char) : QuadStates :=
  (states.flatMap fun (joints, afterDigit) =>
    (if c.isDigit then [(joints, true)] else []) ++
      if afterDigit ∧ 0 < joints then [(joints - 1, false)] else []).eraseDups

/-- whether a text looks like four numbers, whatever single characters stand between them -/
def looksLikeQuad (s : List Char) : Bool := (s.foldl quadStep [(3, false)]).contains (0, true)

end ApiBindings.Web.Host
