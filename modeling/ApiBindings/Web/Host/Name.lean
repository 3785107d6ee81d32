import ApiBindings.Web.Host.Label

/-!
# Host names

A host name is a row of labels; it may end with a point.  A name is shown in any characters and sent
in ASCII.
-/

namespace ApiBindings.Web.Host

open Text

def isPoint (c : Char) : Bool :=
  c == '.' || c.toNat == 0x3002 || c.toNat == 0xFF0E || c.toNat == 0xFF61

def labels? (name : List Char) : Option (List (List Char) × Bool) :=
  let all := splitAtChar '.' (name.map fun c => if isPoint c then '.' else c)
  if 254 < name.length ∨ all = [[]] then none
  else if all.getLast? = some [] then some (all.dropLast, true)
  else some (all, false)

def mapLabels (change : List Char → Except Fault (List Char)) (name : List Char) :
    Except Fault (List Char) :=
  match labels? name with
  | none => .error .malformed
  | some (labels, pointed) => do
    let changed ← labels.mapM change
    return joinAtChar '.' changed ++ if pointed then ['.'] else []

def sentName (name : List Char) : Except Fault (List Char) := do
  let sent ← mapLabels sentLabel name
  if (if sent.getLast? = some '.' then 254 else 253) < sent.length then throw .malformed
  return sent

def shownName (name : List Char) : Except Fault (List Char) := mapLabels shownLabel name

end ApiBindings.Web.Host
