import ApiBindings.Text.Basic

/-!
# Punycode

A text in letters, digits and hyphens.  The ASCII characters come first; behind a hyphen, numbers
tell where the others are inserted, in the order of their code points.  A number is written with
digits to base 36, the last digit being the one below a threshold, and the thresholds follow the
size of the numbers seen so far.
-/

namespace ApiBindings.Text.Punycode

/-! ## Digits -/

/-- The character for a digit below 36. -/
def digitChar (d : Nat) : Char :=
  if d < 26 then Char.ofNat (97 + d) else Char.ofNat (22 + d)

def digit? (c : Char) : Option Nat :=
  if 'a' ≤ c ∧ c ≤ 'z' then some (c.toNat - 97)
  else if 'A' ≤ c ∧ c ≤ 'Z' then some (c.toNat - 65)
  else if c.isDigit then some (c.toNat - 22)
  else none

theorem digit?_digitChar {d : Nat} (h : d < 36) : digit? (digitChar d) = some d := by
  have all : ∀ e ∈ List.range 36, digit? (digitChar e) = some e := by decide
  exact all d (List.mem_range.mpr h)

/-- The threshold of the digit at a weight; the weights are the multiples of 36. -/
def threshold (bias weight : Nat) : Nat := min 26 (max 1 (weight - bias))

theorem threshold_pos (bias weight : Nat) : 0 < threshold bias weight := by
  unfold threshold; omega

/-- Divides a number by 35 until it is at most 455; 36 is added to `sum` at each division. -/
def damped (sum delta : Nat) : Nat × Nat :=
  if 455 < delta then damped (sum + 36) (delta / 35) else (sum, delta)
termination_by delta
decreasing_by exact Nat.div_lt_self (by omega) (by omega)

def nextBias (delta count : Nat) (first : Bool) : Nat :=
  let delta := if first then delta / 700 else delta / 2
  let (sum, rest) := damped 0 (delta + delta / count)
  sum + 36 * rest / (rest + 38)

/-! ## Writing -/

def digits (bias weight n : Nat) : List Char :=
  let t := threshold bias weight
  if n < t then [digitChar n]
  else digitChar (t + (n - t) % (36 - t)) :: digits bias (weight + 36) ((n - t) / (36 - t))
termination_by n
decreasing_by
  have := threshold_pos bias weight
  exact Nat.lt_of_le_of_lt (Nat.div_le_self _ _) (by omega)

/-- How far the writing is. -/
structure Progress where
  /-- the digits so far -/
  out : List Char
  /-- the number under way -/
  delta : Nat
  bias : Nat
  /-- how many characters are written -/
  count : Nat
  /-- whether no number is written yet -/
  first : Bool

/-- Passes one character in the round of a code point. -/
def Progress.pass (p : Progress) (codePoint : Nat) (c : Char) : Progress :=
  if c.toNat < codePoint then { p with delta := p.delta + 1 }
  else if c.toNat = codePoint then
    ⟨p.out ++ digits p.bias 36 p.delta, 0, nextBias p.delta (p.count + 1) p.first, p.count + 1,
      false⟩
  else p

/-- The rounds of ascending code points, the last one before being `previous`. -/
def rounds (s : List Char) (previous : Nat) (p : Progress) : List Nat → Progress
  | [] => p
  | codePoint :: rest =>
    let skipped := (codePoint - previous - 1) * (p.count + 1)
    let q := s.foldl (·.pass codePoint ·) { p with delta := p.delta + skipped }
    rounds s codePoint { q with delta := q.delta + 1 } rest

def insertOnce (n : Nat) : List Nat → List Nat
  | [] => [n]
  | m :: rest => if n < m then n :: m :: rest else if n = m then m :: rest else m :: insertOnce n rest

def encode (s : List Char) : List Char :=
  let plain := s.filter (·.toNat < 0x80)
  let codePoints := (s.filter (0x80 ≤ ·.toNat)).foldr (fun c rest => insertOnce c.toNat rest) []
  let written := rounds s 0x7F ⟨[], 0, 72, plain.length, true⟩ codePoints
  (if plain.isEmpty then [] else plain ++ ['-']) ++ written.out

/-! ## Reading -/

/-- The number at the front of a text, and the rest, which is shorter. -/
def number? (bias weight value factor : Nat) :
    (s : List Char) → Option (Nat × { rest : List Char // rest.length < s.length })
  | [] => none
  | c :: rest =>
    match digit? c with
    | none => none
    | some d =>
      let t := threshold bias weight
      if d < t then some (value + d * factor, ⟨rest, by simp⟩)
      else
        (number? bias (weight + 36) (value + d * factor) (factor * (36 - t)) rest).map
          fun (n, ⟨rest, h⟩) => (n, ⟨rest, by simp; omega⟩)

/-- Inserts the characters that numbers tell of; `place` is where the last one was inserted and
`codePoint` what it was.  A code point that is no character of its own is shown as the null
character. -/
def insertAll (bias place codePoint : Nat) (first : Bool) (out s : List Char) :
    Option (List Char) :=
  match s with
  | [] => some out
  | c :: more =>
    match number? bias 36 0 1 (c :: more) with
    | none => none
    | some (n, ⟨rest, _⟩) =>
      let size := out.length + 1
      let next := codePoint + (place + n) / size
      let spot := (place + n) % size
      if 0x10FFFF < next then none
      else
        insertAll (nextBias n size first) (spot + 1) next false
          (out.take spot ++ Char.ofNat next :: out.drop spot) rest
termination_by s.length
decreasing_by assumption

def decode? (s : List Char) : Option (List Char) :=
  let numbers := afterLastChar '-' s
  let plain := (s.take (s.length - numbers.length)).dropLast
  insertAll 72 0 0x80 true plain numbers

end ApiBindings.Text.Punycode
