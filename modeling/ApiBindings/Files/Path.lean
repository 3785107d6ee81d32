import ApiBindings.Text.Basic
import ApiBindings.Text.CharTable

/-!
# Paths

A path is a list of names, from a root or from the working directory.  Empty names and `.` are left
out, `..` is kept.
-/

namespace ApiBindings

/-- A path.  The root is empty for a path from the working directory. -/
structure Path where
  root : String
  names : List String
deriving DecidableEq, Repr

namespace Path

/-- The root that a text with so many slashes in front starts at; exactly two are kept. -/
def rootOfSlashes (slashes : Nat) : String :=
  match slashes with
  | 0 => ""
  | 2 => "//"
  | _ => "/"

def isStep (name : List Char) : Bool := !name.isEmpty && name != ['.']

def ofText (text : String) : Path :=
  let s := text.toList
  ⟨rootOfSlashes (s.takeWhile (· == '/')).length,
    ((Text.splitAtChar '/' s).filter isStep).map String.ofList⟩

def text (p : Path) : String :=
  if p.root = "" ∧ p.names = [] then "." else p.root ++ Text.join "/" p.names

def parent (p : Path) : Path := ⟨p.root, p.names.dropLast⟩

def child (p : Path) (name : String) : Path := ⟨p.root, p.names ++ [name]⟩

/-- The last name in lower case from its last point on; nothing if that is its first or its last
character. -/
def suffix (p : Path) : String :=
  let name := (p.names.getLast?.getD "").toList
  let stop := Text.afterLastChar '.' name
  if stop.isEmpty ∨ name.length ≤ stop.length + 1 then ""
  else String.ofList ('.' :: stop.map Char.toLower)

end Path

end ApiBindings
