import ApiBindings.Document.Calendar
import ApiBindings.Number.Binary64

/-!
# Document values

A decoded document, whichever format it was written in.  An `Atom` is a value without parts and
may be the key of a mapping; a mapping keeps its entries in the order of the document, and no two
of its keys are the same.
-/

namespace ApiBindings

/-- A value without parts. -/
inductive Atom where
  | null
  | bool (b : Bool)
  | int (n : Int)
  | float (x : Binary64)
  | string (s : String)
  | bytes (content : List UInt8)
  | date (d : Date)
  | time (t : ClockTime)
  | dateTime (d : Date) (t : ClockTime) (offset : Option Int)
deriving DecidableEq, Repr

/-- A document value. -/
inductive Value where
  | atom (a : Atom)
  | list (items : List Value)
  | map (fields : List (Atom × Value))
  | set (members : List Atom)
deriving Repr

instance : Inhabited Value := ⟨.atom .null⟩

abbrev Fields := List (Atom × Value)

namespace Atom

/-- The integer that an atom is equal to, if it is a number or a truth value. -/
def toInt? : Atom → Option Int
  | bool b => some (if b then 1 else 0)
  | int n => some n
  | float x => x.toInt?
  | _ => none

/-- whether two atoms are the same key: numbers and truth values are compared by value -/
def same (a b : Atom) : Bool :=
  match a.toInt?, b.toInt? with
  | some m, some n => m == n
  | none, none => a == b
  | _, _ => false

/-- whether an atom counts as present -/
def truthy : Atom → Bool
  | null => false
  | bool b => b
  | int n => n != 0
  | float x => !x.isZero
  | string s => s != ""
  | bytes content => !content.isEmpty
  | _ => true

end Atom

/-! ## Entries -/

namespace Fields

def get? (fields : Fields) (key : String) : Option Value :=
  (fields.find? fun entry => entry.1 == .string key).map (·.2)

def has (fields : Fields) (key : String) : Bool := (get? fields key).isSome

/-- Writes an entry: a key that is present keeps its place and takes the new value. -/
def insert (key : Atom) (value : Value) : Fields → Fields
  | [] => [(key, value)]
  | (k, v) :: rest =>
    if k.same key then (k, value) :: rest else (k, v) :: insert key value rest

def ofEntries (entries : List (Atom × Value)) : Fields :=
  entries.foldl (fun fields entry => insert entry.1 entry.2 fields) []

end Fields

namespace Value

/-- A text. -/
@[match_pattern] abbrev text (s : String) : Value := .atom (.string s)

/-- The null value. -/
@[match_pattern] abbrev null : Value := .atom .null

/-- A truth value. -/
@[match_pattern] abbrev bool (b : Bool) : Value := .atom (.bool b)

def object (entries : List (String × Value)) : Value :=
  .map (entries.map fun entry => (.string entry.1, entry.2))

/-- whether a value counts as present: nulls, zeros and empty values do not -/
def truthy : Value → Bool
  | .atom a => a.truthy
  | .list items => !items.isEmpty
  | .map fields => !fields.isEmpty
  | .set members => !members.isEmpty

def isText (s : String) : Value → Bool
  | .atom (.string t) => t == s
  | _ => false

end Value

end ApiBindings
