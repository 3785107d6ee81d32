import ApiBindings.Document.Value
import ApiBindings.Number.Reading

/-!
# The extent of a value

How deep a value is nested, and how long its integers are.  What is beyond some extent cannot be
gone through or shown; where that begins depends on the machine.
-/

namespace ApiBindings

def nestingLimit : Nat := 980

def Atom.isLong : Atom → Bool
  | .int n => decide (maxDecimalDigits < (Nat.toDigits 10 n.natAbs).length)
  | _ => false

namespace Value

mutual

/-- How deep a value is nested; a value without parts is not. -/
def depth : Value → Nat
  | .atom _ => 0
  | .list items => deepestItem items + 1
  | .map fields => deepestField fields + 1
  | .set _ => 1
termination_by structural v => v

def deepestItem : List Value → Nat
  | [] => 0
  | v :: rest => max (depth v) (deepestItem rest)
termination_by structural items => items

def deepestField : List (Atom × Value) → Nat
  | [] => 0
  | (_, v) :: rest => max (depth v) (deepestField rest)
termination_by structural fields => fields

end

/-- whether a value cannot be gone through if every level takes a number of nested calls -/
def isTooDeep (calls : Nat) (v : Value) : Bool := decide (nestingLimit < calls * v.depth)

mutual

def atoms : Value → List Atom
  | .atom a => [a]
  | .list items => itemAtoms items
  | .map fields => fieldAtoms fields
  | .set members => members
termination_by structural v => v

def itemAtoms : List Value → List Atom
  | [] => []
  | v :: rest => atoms v ++ itemAtoms rest
termination_by structural items => items

def fieldAtoms : List (Atom × Value) → List Atom
  | [] => []
  | (key, v) :: rest => key :: (atoms v ++ fieldAtoms rest)
termination_by structural fields => fields

end

def hasLongInteger (v : Value) : Bool := v.atoms.any Atom.isLong

/-! ## Ordinary values -/

def ordinaryDepth : Nat := 120

/-- a value that any machine goes through and shows -/
structure Ordinary (v : Value) : Prop where
  depth : v.depth ≤ ordinaryDepth
  integers : v.hasLongInteger = false

theorem Ordinary.isTooDeep {v : Value} (h : v.Ordinary) {calls : Nat}
    (hcalls : calls * ordinaryDepth ≤ nestingLimit) : v.isTooDeep calls = false := by
  have hdepth : calls * v.depth ≤ nestingLimit :=
    Nat.le_trans (Nat.mul_le_mul_left calls h.depth) hcalls
  exact decide_eq_false (Nat.not_lt.mpr hdepth)

end Value

end ApiBindings
