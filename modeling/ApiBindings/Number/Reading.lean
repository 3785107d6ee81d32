import ApiBindings.Number.Binary64
import ApiBindings.Text.Blank
import ApiBindings.Text.Digit

/-!
# Reading numbers

Numbers written with spaces around them and a sign in front: integers in several bases and numbers
with a point and an exponent.  The digits may be those of any script.
-/

namespace ApiBindings

/-! ## The text of a number -/

/-- A text for a number in ASCII: digits of all scripts become ASCII digits, and blanks beyond ASCII
become spaces.  No other character beyond ASCII belongs to a number. -/
def numberText? (s : List Char) : Option (List Char) :=
  s.mapM fun c =>
    if c.toNat < 0x80 then some c
    else if Text.isBlank c then some ' '
    else (Text.decimalDigit? c).map fun d => Char.ofNat (48 + d)

/-- whether a character of ASCII is a space around a number -/
def isSpace (c : Char) : Bool := c == ' ' || (0x09 ≤ c.toNat && c.toNat ≤ 0x0D)

def trimSpaces (s : List Char) : List Char :=
  ((s.dropWhile isSpace).reverse.dropWhile isSpace).reverse

/-- Splits a sign off the front of a text; the first part says whether it is negative. -/
def splitSign : List Char → Bool × List Char
  | '-' :: rest => (true, rest)
  | '+' :: rest => (false, rest)
  | s => (false, s)

def baseMark? : Nat → Option Char
  | 2 => some 'b'
  | 8 => some 'o'
  | 16 => some 'x'
  | _ => none

/-! ## Integers -/

def dropBaseMark (base : Nat) (s : List Char) : List Char :=
  match s with
  | '0' :: mark :: '_' :: rest => if baseMark? base = some mark.toLower then rest else s
  | '0' :: mark :: rest => if baseMark? base = some mark.toLower then rest else s
  | _ => s

def withoutUnderscores? (afterDigit : Bool) : List Char → Option (List Char)
  | [] => if afterDigit then some [] else none
  | c :: rest =>
    if c = '_' then if afterDigit then withoutUnderscores? false rest else none
    else (withoutUnderscores? true rest).map (c :: ·)

/-- The number that digits of a base stand for, continuing from `acc`. -/
def digitsValue? (base : Nat) (acc : Nat) : List Char → Option Nat
  | [] => some acc
  | c :: rest =>
    match Text.hexDigit? c with
    | some d => if d < base then digitsValue? base (base * acc + d) rest else none
    | none => none

def maxDecimalDigits : Nat := 4300

def integer? (base : Nat) (text : List Char) : Option Int := do
  let (negative, rest) := splitSign (trimSpaces (← numberText? text))
  let digits ← withoutUnderscores? false (dropBaseMark base rest)
  if base = 10 ∧ maxDecimalDigits < digits.length then none
  else (digitsValue? base 0 digits).map fun n => if negative then -(n : Int) else n

/-! ## Numbers with a point -/

/-- The exponent that a text is, zero for the empty one. -/
def exponent? : List Char → Option Int
  | [] => some 0
  | e :: rest =>
    if e = 'e' ∨ e = 'E' then
      let (negative, digits) := splitSign rest
      if digits.isEmpty then none
      else (digitsValue? 10 0 digits).map fun n => if negative then -(n : Int) else n
    else none

def notFinite? (word : List Char) : Option Binary64 :=
  let lower := String.ofList (word.map Char.toLower)
  if lower = "inf" ∨ lower = "infinity" then some (.infinite false)
  else if lower = "nan" then some .notANumber
  else none

namespace Binary64

/-- The number that a text without a sign is. -/
def ofDigits? (s : List Char) : Option Binary64 :=
  let (whole, rest) := s.span Char.isDigit
  let (fraction, rest) := match rest with
    | '.' :: after => after.span Char.isDigit
    | rest => ([], rest)
  if whole.isEmpty && fraction.isEmpty then none
  else do
    let e ← exponent? rest
    let digits ← digitsValue? 10 0 (whole ++ fraction)
    return ofDecimal false digits (e - fraction.length)

def ofText? (text : List Char) : Option Binary64 := do
  let (negative, rest) := splitSign (trimSpaces (← numberText? text))
  let magnitude := match notFinite? rest with
    | some x => some x
    | none => ofDigits? rest
  magnitude.map fun x => if negative then x.neg else x

end Binary64

end ApiBindings
