import ApiBindings.Text.CharTable
import ApiBindings.Yaml.Node

/-!
# The tag of a plain scalar

What a plain scalar is, is told by its text: a truth value, a number, a date, null or just a text.
The forms are those of YAML 1.1.
-/

namespace ApiBindings.Yaml

def truthWords : List (String × Bool) :=
  [("yes", true), ("true", true), ("on", true), ("no", false), ("false", false), ("off", false)]

/-- A word in lower case, with a capital in front, and in capitals. -/
def spellings (word : String) : List String :=
  [word, word.capitalize, word.toUpper]

def isDigitOrGap (test : Char → Bool) (c : Char) : Bool := test c || c == '_'

def dropSign : List Char → List Char
  | '-' :: rest => rest
  | '+' :: rest => rest
  | s => s

/-! ## Numbers in sixties -/

/-- whether a text is a number below 60 of one or two digits -/
def isSixtieth : List Char → Bool
  | [d] => d.isDigit
  | [t, d] => '0' ≤ t && t ≤ '5' && d.isDigit
  | _ => false

/-- whether a text is a number and after it, behind colons, one or more numbers below 60 -/
def isSixties (first : List Char → Bool) (s : List Char) : Bool :=
  match Text.splitAtChar ':' s with
  | head :: p :: rest => first head && (p :: rest).all isSixtieth
  | _ => false

/-! ## Integers -/

def consistsOf (test : Char → Bool) (s : List Char) : Bool := !s.isEmpty && s.all test

/-- whether a text is a decimal number that does not begin with zero; digits may be grouped -/
def isGrouped : List Char → Bool
  | d :: rest => '1' ≤ d && d ≤ '9' && rest.all (isDigitOrGap Char.isDigit)
  | [] => false

/-- whether a text is a number in base 8 behind a zero -/
def isOctal : List Char → Bool
  | '0' :: rest => consistsOf (isDigitOrGap fun c => '0' ≤ c && c ≤ '7') rest
  | _ => false

/-- whether a text is a number in base 2 or 16 behind its sign -/
def isBased : List Char → Bool
  | '0' :: 'b' :: rest => consistsOf (isDigitOrGap fun c => c == '0' || c == '1') rest
  | '0' :: 'x' :: rest => consistsOf (isDigitOrGap fun c => (Text.hexDigit? c).isSome) rest
  | _ => false

def isInteger (s : List Char) : Bool :=
  let n := dropSign s
  n == ['0'] || isOctal n || isGrouped n || isBased n || isSixties isGrouped n

/-! ## Numbers with a point -/

def isExponent : List Char → Bool
  | [] => true
  | e :: sign :: digits =>
    (e == 'e' || e == 'E') && (sign == '+' || sign == '-') && consistsOf Char.isDigit digits
  | _ => false

def isDigitGroup : List Char → Bool
  | d :: rest => d.isDigit && rest.all (isDigitOrGap Char.isDigit)
  | [] => false

def splitDigits (s : List Char) : List Char × List Char := s.span (isDigitOrGap Char.isDigit)

/-- whether a text is a number with a point: digits, the point, and then maybe more digits and an
exponent -/
def isPointed (s : List Char) : Bool :=
  let (whole, rest) := splitDigits s
  match rest with
  | '.' :: after => isDigitGroup whole && isExponent (splitDigits after).2
  | _ => false

/-- whether a text is a number that begins with the point -/
def isFraction : List Char → Bool
  | '.' :: rest =>
    let (digits, after) := splitDigits rest
    isDigitGroup digits && isExponent after
  | _ => false

/-- whether a text is a number in sixties with a point at the end -/
def isPointedSixties (s : List Char) : Bool :=
  let (whole, rest) := s.span (· != '.')
  match rest with
  | '.' :: fraction =>
    isSixties isDigitGroup whole && fraction.all (isDigitOrGap Char.isDigit)
  | _ => false

def infinityWords : List String := [".inf", ".Inf", ".INF"]

def notANumberWords : List String := [".nan", ".NaN", ".NAN"]

/-- whether a text has the form of a number with a point -/
def isFloat (s : List Char) : Bool :=
  let n := dropSign s
  isPointed n || isFraction s || isPointedSixties n ||
    infinityWords.contains (String.ofList n) || notANumberWords.contains (String.ofList s)

/-! ## Dates -/

/-- The parts of a date and time as they are written. -/
structure WrittenTime where
  hour : List Char
  minute : List Char
  second : List Char
  fraction : List Char
  /-- The sign, the hours and the minutes of the offset; universal time has no sign. -/
  offset : Option (Option Char × List Char × List Char)

/-- A date, and maybe a time, as they are written. -/
structure WrittenDate where
  year : List Char
  month : List Char
  day : List Char
  time : Option WrittenTime

def oneOrTwoDigits? : List Char → Option (List Char × List Char)
  | a :: b :: rest =>
    if a.isDigit then if b.isDigit then some ([a, b], rest) else some ([a], b :: rest) else none
  | [a] => if a.isDigit then some ([a], []) else none
  | [] => none

def twoDigitsAfter? (mark : Char) : List Char → Option (List Char × List Char)
  | m :: a :: b :: rest => if m = mark ∧ a.isDigit ∧ b.isDigit then some ([a, b], rest) else none
  | _ => none

/-- The offset at the end of a time, none if nothing is left. -/
def writtenOffset? (s : List Char) : Option (Option (Option Char × List Char × List Char)) :=
  match s.dropWhile fun c => c == ' ' || c == '\t' with
  | [] => if s.isEmpty then some none else none
  | ['Z'] => some (some (none, [], []))
  | sign :: rest =>
    if sign = '+' ∨ sign = '-' then
      match oneOrTwoDigits? rest with
      | some (hours, []) => some (some (some sign, hours, []))
      | some (hours, after) =>
        match twoDigitsAfter? ':' after with
        | some (minutes, []) => some (some (some sign, hours, minutes))
        | _ => none
      | none => none
    else none

/-- The time behind a date: after a `T` or blanks. -/
def writtenTime? (s : List Char) : Option WrittenTime := do
  let rest ← match s with
    | 'T' :: rest => some rest
    | 't' :: rest => some rest
    | c :: _ =>
      if c == ' ' || c == '\t' then some (s.dropWhile fun c => c == ' ' || c == '\t') else none
    | [] => none
  let (hour, rest) ← oneOrTwoDigits? rest
  let (minute, rest) ← twoDigitsAfter? ':' rest
  let (second, rest) ← twoDigitsAfter? ':' rest
  let (fraction, rest) := match rest with
    | '.' :: after => after.span Char.isDigit
    | rest => ([], rest)
  let offset ← writtenOffset? rest
  return ⟨hour, minute, second, fraction, offset⟩

/-- The date, and maybe the time, that a text is. -/
def writtenDate? (s : List Char) : Option WrittenDate := do
  let year := s.take 4
  if year.length = 4 ∧ year.all Char.isDigit then
    match s.drop 4 with
    | '-' :: rest => do
      let (month, rest) ← oneOrTwoDigits? rest
      match rest with
      | '-' :: rest => do
        let (day, rest) ← oneOrTwoDigits? rest
        if rest.isEmpty then return ⟨year, month, day, none⟩
        else
          let time ← writtenTime? rest
          return ⟨year, month, day, some time⟩
      | _ => none
    | _ => none
  else none

/-- whether a plain text is a date: without a time, month and day have two digits -/
def isDate (s : List Char) : Bool :=
  match writtenDate? s with
  | some date => date.time.isSome || (date.month.length == 2 && date.day.length == 2)
  | none => false

/-! ## Tags -/

def dropLineFeed (s : List Char) : List Char :=
  if s.getLast? = some '\n' then s.dropLast else s

/-- The tag of a plain scalar. -/
def plainTag (text : String) : Tag :=
  let s := dropLineFeed text.toList
  let word := String.ofList s
  if truthWords.any fun w => (spellings w.1).contains word then .bool
  else if isFloat s then .float
  else if isInteger s then .int
  else if word = "<<" then .merge
  else if text = "" ∨ word = "~" ∨ (spellings "null").contains word then .null
  else if isDate s then .timestamp
  else if word = "=" then .default
  else .str

end ApiBindings.Yaml
