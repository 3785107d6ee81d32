/-!
# Binary floating-point numbers

A `Binary64` is a number of IEEE double precision, given by its parts.  Decimals and quotients are
rounded to the nearest one, a tie to the even significand, by exact integer arithmetic.
-/

namespace ApiBindings

def power (base exponent : Nat) : Nat := Nat.pow base exponent

/-- A double-precision number.  A finite one is `± significand * 2 ^ exponent`; the numbers built
here have `significand < 2 ^ 53` and `-1074 ≤ exponent`, and the least exponent that allows this. -/
inductive Binary64 where
  | finite (negative : Bool) (significand : Nat) (exponent : Int)
  | infinite (negative : Bool)
  | notANumber
deriving DecidableEq, Repr

namespace Binary64

/-- The quotient rounded to the nearest natural number, a tie to the even one. -/
def roundDiv (num den : Nat) : Nat :=
  let q := num / den
  match compare (2 * (num % den)) den with
  | .lt => q
  | .gt => q + 1
  | .eq => if q % 2 = 0 then q else q + 1

def zero : Binary64 := .finite false 0 (-1074)

/-- The exponent of the number nearest to `num / den`, neither of them zero. -/
def scaleOf (num den : Nat) : Int :=
  let e : Int := (num.log2 : Int) - (den.log2 : Int) - 52
  -- `num / den` lies between `2 ^ (e + 51)` and `2 ^ (e + 53)`
  let below := decide (num * power 2 (-(e + 52)).toNat < den * power 2 (e + 52).toNat)
  max (if below then e - 1 else e) (-1074)

/-- The number nearest to `± num / den`; `den` is not zero. -/
def ofRatio (negative : Bool) (num den : Nat) : Binary64 :=
  if num = 0 then .finite negative 0 (-1074)
  else
    let e := scaleOf num den
    let m := roundDiv (num * power 2 (-e).toNat) (den * power 2 e.toNat)
    let (m, e) := if m = power 2 53 then (power 2 52, e + 1) else (m, e)
    if 971 < e then .infinite negative else .finite negative m e

/-- The number nearest to `± digits * 10 ^ exponent`.  Exponents far outside the range of the
format are decided without computing the power. -/
def ofDecimal (negative : Bool) (digits : Nat) (exponent : Int) : Binary64 :=
  let magnitude : Int := exponent + (digits.log2 * 30103 / 100000 : Nat)
  if digits = 0 ∨ magnitude < -400 then .finite negative 0 (-1074)
  else if 400 < magnitude then .infinite negative
  else ofRatio negative (digits * power 10 exponent.toNat) (power 10 (-exponent).toNat)

/-- The value of a finite number times `2 ^ 1074`, which is an integer. -/
def units : Binary64 → Option Int
  | .finite negative m e =>
    let n : Int := (m * power 2 (e + 1074).toNat : Nat)
    some (if negative then -n else n)
  | _ => none

/-- The integer that a finite number is equal to, if there is one. -/
def toInt? (x : Binary64) : Option Int :=
  match x.units with
  | some n => if n % (power 2 1074 : Nat) = 0 then some (n / (power 2 1074 : Nat)) else none
  | none => none

/-- The number with the sign turned. -/
def neg : Binary64 → Binary64
  | .finite negative m e => .finite (!negative) m e
  | .infinite negative => .infinite (!negative)
  | .notANumber => .notANumber

/-- The rounded sum of two numbers. -/
def add : Binary64 → Binary64 → Binary64
  | .notANumber, _ => .notANumber
  | _, .notANumber => .notANumber
  | .infinite a, .infinite b => if a = b then .infinite a else .notANumber
  | .infinite a, _ => .infinite a
  | _, .infinite b => .infinite b
  | .finite a m e, .finite b n f =>
    let sum : Int := ((Binary64.finite a m e).units.getD 0) + ((Binary64.finite b n f).units.getD 0)
    if sum = 0 then .finite (a && b) 0 (-1074) else ofRatio (sum < 0) sum.natAbs (power 2 1074)

/-- The rounded product with a natural number. -/
def scale (n : Nat) : Binary64 → Binary64
  | .finite negative m e => ofRatio negative (n * m * power 2 e.toNat) (power 2 (-e).toNat)
  | x => x

/-- whether two numbers are equal as numbers: the two zeros are, and nothing equals `notANumber` -/
def same (x y : Binary64) : Bool :=
  match x, y with
  | .infinite a, .infinite b => a == b
  | .finite .., .finite .. => x.units == y.units
  | _, _ => false

def isZero : Binary64 → Bool
  | .finite _ m _ => m == 0
  | _ => false

end Binary64

end ApiBindings
