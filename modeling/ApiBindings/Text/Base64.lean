/-!
# Base 64

Bytes written with 64 characters, four of them for three bytes.  Other characters are skipped, and
padding ends the text.
-/

namespace ApiBindings.Text

def base64Digit? (c : Char) : Option Nat :=
  if 'A' ≤ c ∧ c ≤ 'Z' then some (c.toNat - 65)
  else if 'a' ≤ c ∧ c ≤ 'z' then some (c.toNat - 71)
  else if '0' ≤ c ∧ c ≤ '9' then some (c.toNat + 4)
  else if c = '+' then some 62
  else if c = '/' then some 63
  else none

/-- The bytes of the digits of one group so far, which are two to four. -/
def base64Group : List Nat → List UInt8
  | [a, b] => [UInt8.ofNat (a * 4 + b / 16)]
  | [a, b, c] => [UInt8.ofNat (a * 4 + b / 16), UInt8.ofNat (b % 16 * 16 + c / 4)]
  | [a, b, c, d] =>
    [UInt8.ofNat (a * 4 + b / 16), UInt8.ofNat (b % 16 * 16 + c / 4),
      UInt8.ofNat (c % 4 * 64 + d)]
  | _ => []

/-- Reads bytes; `group` are the digits of the group under way and `pads` the padding characters
directly before.  None if a group is left incomplete. -/
def base64From (group : List Nat) (pads : Nat) : List Char → Option (List UInt8)
  | [] => if group.isEmpty then some [] else none
  | c :: rest =>
    if c = '=' then
      if 2 ≤ group.length then
        if 4 ≤ group.length + (pads + 1) then some (base64Group group)
        else base64From group (pads + 1) rest
      else base64From group pads rest
    else
      match base64Digit? c with
      | none => base64From group pads rest
      | some d =>
        if group.length = 3 then (base64From [] 0 rest).map (base64Group (group ++ [d]) ++ ·)
        else base64From (group ++ [d]) 0 rest

def base64? (s : List Char) : Option (List UInt8) := base64From [] 0 s

end ApiBindings.Text
