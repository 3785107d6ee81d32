import ApiBindings.Document.Value
import ApiBindings.Text.Basic
import ApiBindings.Toml.Text

/-!
# Numbers, dates and truth values

The values of TOML that have no quotes and no parts.  Each is as long as possible; what follows it
is not looked at.
-/

namespace ApiBindings.Toml

/-- Why a text cannot be read. -/
inductive Fault where
  | syntaxError
  | longInteger
  | tooDeep
deriving DecidableEq, Repr

/-- Whatever is not found is missed as a fault of syntax. -/
def needed {α : Type} : Option α → Except Fault α
  | some a => .ok a
  | none => .error .syntaxError

/-! ## Numbers -/

/-- The digits at the beginning and what follows them; a single low line may stand between two. -/
def digitRun (isDigit : Char → Bool) : List Char → List Char × List Char
  | [] => ([], [])
  | '_' :: c :: rest =>
    if isDigit c then
      let (digits, after) := digitRun isDigit rest
      (c :: digits, after)
    else ([], '_' :: c :: rest)
  | c :: rest =>
    if isDigit c then
      let (digits, after) := digitRun isDigit rest
      (c :: digits, after)
    else ([], c :: rest)

def digits? (isDigit : Char → Bool) (s : List Char) : Option (List Char × List Char) :=
  match s with
  | [] => none
  | c :: _ => if isDigit c then some (digitRun isDigit s) else none

def isDigitOf (base : Nat) (c : Char) : Bool :=
  match Text.hexDigit? c with
  | some d => d < base
  | none => false

/-- Reads an integer with the mark of its base. -/
def markedInteger (s : List Char) : Option (Value × List Char) :=
  let read (base : Nat) (rest : List Char) : Option (Value × List Char) := do
    let (digits, after) ← digits? (isDigitOf base) rest
    let n ← digitsValue? base 0 digits
    return (.atom (.int n), after)
  match s with
  | '0' :: 'x' :: rest => read 16 rest
  | '0' :: 'b' :: rest => read 2 rest
  | '0' :: 'o' :: rest => read 8 rest
  | _ => none

/-- Reads the digits in front of a point: a zero, or digits that begin with no zero. -/
def wholeDigits (s : List Char) : Option (List Char × List Char) :=
  match s with
  | '0' :: rest => some (['0'], rest)
  | _ => digits? Char.isDigit s

def fractionDigits : List Char → Option (List Char × List Char)
  | '.' :: rest => digits? Char.isDigit rest
  | _ => none

/-- Reads an exponent with its mark. -/
def exponentDigits : List Char → Option (List Char × List Char)
  | mark :: rest =>
    if mark = 'e' ∨ mark = 'E' then do
      let sign := rest.takeWhile fun c => c == '+' || c == '-'
      if sign.length ≤ 1 then do
        let (digits, after) ← digits? Char.isDigit (rest.drop sign.length)
        return ('e' :: sign ++ digits, after)
      else none
    else none
  | [] => none

/-- Reads a decimal number: one with a point or an exponent is no integer, and an integer has no
value if it has too many digits. -/
def decimal (s : List Char) : Option (Except Fault Value × List Char) := do
  let sign := (s.take 1).takeWhile fun c => c == '+' || c == '-'
  let (whole, rest) ← wholeDigits (s.drop sign.length)
  let (fraction, rest) := (fractionDigits rest).getD ([], rest)
  let (exponent, rest) := (exponentDigits rest).getD ([], rest)
  if fraction.isEmpty && exponent.isEmpty then
    if maxDecimalDigits < whole.length then return (.error .longInteger, rest)
    else do
      let n ← digitsValue? 10 0 whole
      return (.ok (.atom (.int (if sign = ['-'] then -(n : Int) else n))), rest)
  else do
    let x ← Binary64.ofText? (sign ++ whole ++ '.' :: fraction ++ exponent)
    return (.ok (.atom (.float x)), rest)

def notFiniteWords : List (List Char × Binary64) :=
  [("inf".toList, .infinite false), ("nan".toList, .notANumber), ("+inf".toList, .infinite false),
    ("-inf".toList, .infinite true), ("+nan".toList, .notANumber), ("-nan".toList, .notANumber)]

def notFinite (s : List Char) : Option (Value × List Char) :=
  (notFiniteWords.find? fun word => word.1.isPrefixOf s).map fun word =>
    (.atom (.float word.2), s.drop word.1.length)

/-! ## Dates and times -/

/-- Reads a number of exactly `n` digits. -/
def fixedNumber (n : Nat) (s : List Char) : Option (Nat × List Char) :=
  let digits := s.take n
  if digits.length = n ∧ digits.all Char.isDigit then
    (digitsValue? 10 0 digits).map fun m => (m, s.drop n)
  else none

/-- Reads a number of two digits within bounds. -/
def pair (least most : Nat) (s : List Char) : Option (Nat × List Char) := do
  let (n, rest) ← fixedNumber 2 s
  if least ≤ n ∧ n ≤ most then some (n, rest) else none

def after? (c : Char) (s : List Char) : Option (List Char) := Text.afterStart? [c] s

/-- Reads a year, a month and a day; the day may lie behind the end of the month. -/
def dateParts (s : List Char) : Option ((Nat × Nat × Nat) × List Char) := do
  let (year, rest) ← fixedNumber 4 s
  let (month, rest) ← pair 1 12 (← after? '-' rest)
  let (day, rest) ← pair 1 31 (← after? '-' rest)
  return ((year, month, day), rest)

/-- Reads the microseconds behind a point; digits beyond the sixth do not count. -/
def microseconds : List Char → Nat × List Char
  | '.' :: rest =>
    let digits := rest.takeWhile Char.isDigit
    match digits with
    | [] => (0, '.' :: rest)
    | _ => ((digitsValue? 10 0 ((digits ++ List.replicate 6 '0').take 6)).getD 0,
        rest.drop digits.length)
  | s => (0, s)

def clockTime (s : List Char) : Option (ClockTime × List Char) := do
  let (hour, rest) ← pair 0 23 s
  let (minute, rest) ← pair 0 59 (← after? ':' rest)
  let (second, rest) ← pair 0 59 (← after? ':' rest)
  let (micro, rest) := microseconds rest
  return (⟨hour, minute, second, micro⟩, rest)

/-- Reads an offset from universal time in minutes. -/
def offset (s : List Char) : Option (Int × List Char) := do
  match s with
  | 'Z' :: rest => some (0, rest)
  | 'z' :: rest => some (0, rest)
  | sign :: rest =>
    if sign = '+' ∨ sign = '-' then do
      let (hours, rest) ← pair 0 23 rest
      let (minutes, rest) ← pair 0 59 (← after? ':' rest)
      let n : Int := 60 * hours + minutes
      return (if sign = '-' then -n else n, rest)
    else none
  | [] => none

def timeAfterDate : List Char → Option (ClockTime × List Char)
  | sep :: rest => if sep = 'T' ∨ sep = 't' ∨ sep = ' ' then clockTime rest else none
  | [] => none

/-- Reads a date, maybe with a time; none inside if there is no such date. -/
def dateTime (s : List Char) : Option (Option Value × List Char) := do
  let ((year, month, day), rest) ← dateParts s
  let date := Date.ofParts? year month day
  match timeAfterDate rest with
  | none => return (date.map fun d => .atom (.date d), rest)
  | some (time, rest) =>
    let (zone, rest) := match offset rest with
      | some (minutes, rest) => (some minutes, rest)
      | none => (none, rest)
    return (date.map fun d => .atom (.dateTime d time zone), rest)

/-! ## Scalars -/

def truthValue (s : List Char) : Option (Value × List Char) :=
  match Text.afterStart? "true".toList s with
  | some rest => some (.bool true, rest)
  | none => (Text.afterStart? "false".toList s).map fun rest => (.bool false, rest)

def number (s : List Char) : Except Fault (Value × List Char) :=
  match markedInteger s, decimal s with
  | some found, _ => .ok found
  | none, some (v, rest) => v.map fun v => (v, rest)
  | none, none => needed (notFinite s)

/-- Reads a value without quotes and without parts. -/
def scalar (s : List Char) : Except Fault (Value × List Char) :=
  match truthValue s with
  | some found => .ok found
  | none =>
    match dateTime s with
    | some (date, rest) => needed (date.map fun v => (v, rest))
    | none =>
      match clockTime s with
      | some (time, rest) => .ok (.atom (.time time), rest)
      | none => number s

end ApiBindings.Toml
