import ApiBindings.Document.Value
import ApiBindings.Number.Reading
import ApiBindings.Text.Base64
import ApiBindings.Yaml.PlainTag

/-!
# The value of a scalar

The value that a scalar has by its tag.  A tag may be written in front of any text, so the text need
not have the form that the tag asks for.
-/

namespace ApiBindings.Yaml

def withoutGaps (text : String) : List Char := text.toList.filter (· != '_')

/-- The number of a list of digits in base 60, the most significant first. -/
def sixtiesValue (digits : List Int) : Int := digits.foldl (fun n d => 60 * n + d) 0

/-- The value behind the sign of an integer. -/
def unsignedInteger (s : List Char) : Except Fault Int :=
  let read (base : Nat) (digits : List Char) : Except Fault Int :=
    match integer? base digits with
    | some n => .ok n
    | none => .error .badNumber
  match s with
  | [] => .error .emptyNumber
  | '0' :: 'b' :: digits => read 2 digits
  | '0' :: 'x' :: digits => read 16 digits
  | ['0'] => .ok 0
  | '0' :: _ => read 8 s
  | _ =>
    if s.contains ':' then ((Text.splitAtChar ':' s).mapM (read 10)).map sixtiesValue
    else read 10 s

def integerValue (text : String) : Except Fault Int :=
  let s := withoutGaps text
  if s.isEmpty then .error .emptyNumber
  else
    let (negative, rest) := splitSign s
    (unsignedInteger rest).map fun n => if negative then -n else n

/-- The sum of numbers, the least significant first, each counting sixty times as much as the one
before it.  What a number counts must not be beyond the range of the format. -/
def sixtiesSum : Nat → Binary64 → List Binary64 → Except Fault Binary64
  | _, sum, [] => .ok sum
  | base, sum, d :: rest =>
    if power 2 1024 ≤ base then .error .overflow
    else sixtiesSum (base * 60) (sum.add (d.scale base)) rest

/-- The value behind the sign of a number with a point. -/
def unsignedFloat (s : List Char) : Except Fault Binary64 :=
  let read (digits : List Char) : Except Fault Binary64 :=
    match Binary64.ofText? digits with
    | some x => .ok x
    | none => .error .badNumber
  if s = ".inf".toList then .ok (.infinite false)
  else if s = ".nan".toList then .ok .notANumber
  else if s.contains ':' then do
    let digits ← (Text.splitAtChar ':' s).mapM read
    sixtiesSum 1 .zero digits.reverse
  else read s

/-- The value of a number with a point. -/
def floatValue (text : String) : Except Fault Binary64 :=
  let s := (withoutGaps text).map Char.toLower
  if s.isEmpty then .error .emptyNumber
  else
    let (negative, rest) := splitSign s
    (unsignedFloat rest).map fun x => if negative then x.neg else x

/-! ## Dates -/

def digitsNumber (digits : List Char) : Nat := (digitsValue? 10 0 digits).getD 0

/-- The microseconds of the digits behind a point; digits beyond the sixth do not count. -/
def microseconds (digits : List Char) : Nat :=
  digitsNumber ((digits ++ List.replicate 6 '0').take 6)

def offsetMinutes : Option (Option Char × List Char × List Char) → Except Fault (Option Int)
  | none => .ok none
  | some (none, _, _) => .ok (some 0)
  | some (some sign, hours, minutes) =>
    let n := 60 * digitsNumber hours + digitsNumber minutes
    if n < 1440 then .ok (some (if sign = '-' then -(n : Int) else n)) else .error .badDate

/-- The date, and maybe the time, that a text is. -/
def dateValue (text : String) : Except Fault Atom :=
  match writtenDate? (dropLineFeed text.toList) with
  | none => .error .badTimestamp
  | some written =>
    let date := Date.ofParts? (digitsNumber written.year) (digitsNumber written.month)
      (digitsNumber written.day)
    match written.time, date with
    | none, some d => .ok (.date d)
    | some time, some d => do
      let offset ← offsetMinutes time.offset
      match ClockTime.ofParts? (digitsNumber time.hour) (digitsNumber time.minute)
          (digitsNumber time.second) (microseconds time.fraction) with
      | some t => return .dateTime d t offset
      | none => throw .badDate
    | _, none => .error .badDate

/-! ## Scalars -/

def truthValue (text : String) : Except Fault Bool :=
  match truthWords.lookup text.toLower with
  | some b => .ok b
  | none => .error .unknownBoolean

/-- The bytes that a text stands for. -/
def binaryValue (text : String) : Except Fault (List UInt8) :=
  if text.toList.all fun c => c.toNat < 128 then
    match Text.base64? text.toList with
    | some content => .ok content
    | none => .error .syntaxError
  else .error .syntaxError

/-- The value of a text with a tag; a tag of collections and an unknown one have none. -/
def scalarValue (tag : Tag) (text : String) : Except Fault Atom :=
  match tag with
  | .null => .ok .null
  | .bool => (truthValue text).map .bool
  | .int => (integerValue text).map .int
  | .float => (floatValue text).map .float
  | .binary => (binaryValue text).map .bytes
  | .timestamp => dateValue text
  | .str => .ok (.string text)
  | _ => .error .syntaxError

end ApiBindings.Yaml
