import ApiBindings.Document.Value
import ApiBindings.Number.Shortest
import ApiBindings.Text.Basic
import ApiBindings.Text.Printable
import ApiBindings.Text.Quoted

/-!
# The text of a value

Messages show values in two ways.  The *literal* of a value tells its kind: texts are quoted,
dates are spelled out with their parts.  The *plain* text of a value shows texts and dates as they
are and everything else as its literal.
-/

namespace ApiBindings

/-- The quote for a text: the single one, unless that would need an escape and the double one would
not. -/
def quoteFor (single double : Bool) : Char := if single && !double then '"' else '\''

/-- The last `width` hexadecimal digits of a number. -/
def hexDigits : Nat → Nat → List Char
  | 0, _ => []
  | width + 1, n => hexDigits width (n / 16) ++ [Text.hexDigitChar (n % 16)]

/-- A character inside a quoted literal. -/
def literalChar (quote c : Char) : List Char :=
  let n := c.toNat
  if c = quote ∨ c = '\\' then ['\\', c]
  else if c = '\t' then ['\\', 't']
  else if c = '\n' then ['\\', 'n']
  else if c = '\r' then ['\\', 'r']
  else if Text.isPrintable c then [c]
  else if n < 0x100 then '\\' :: 'x' :: hexDigits 2 n
  else if n < 0x10000 then '\\' :: 'u' :: hexDigits 4 n
  else '\\' :: 'U' :: hexDigits 8 n

def textLiteral (s : String) : String :=
  let cs := s.toList
  let quote := quoteFor (cs.contains '\'') (cs.contains '"')
  String.ofList (quote :: (cs.flatMap (literalChar quote) ++ [quote]))

/-- Bytes as a quoted literal with `b` in front. -/
def bytesLiteral (content : List UInt8) : String :=
  let cs := content.map fun b => Char.ofNat b.toNat
  let quote := quoteFor (cs.contains '\'') (cs.contains '"')
  let show1 (c : Char) : List Char :=
    if 0x7F ≤ c.toNat then '\\' :: 'x' :: hexDigits 2 c.toNat else literalChar quote c
  String.ofList ('b' :: quote :: (cs.flatMap show1 ++ [quote]))

/-- The parts of a time of day, without zeros at the end but always with hour and minute. -/
def ClockTime.parts (t : ClockTime) : List Nat :=
  if t.microsecond ≠ 0 then [t.hour, t.minute, t.second, t.microsecond]
  else if t.second ≠ 0 then [t.hour, t.minute, t.second]
  else [t.hour, t.minute]

def callLiteral (name : String) (args : List String) : String :=
  name ++ "(" ++ Text.join ", " args ++ ")"

/-- The argument that names an offset. -/
def offsetLiteral : Option Int → List String
  | none => []
  | some 0 => ["tzinfo=datetime.timezone.utc"]
  | some minutes =>
    let seconds := minutes * 60
    let args :=
      if seconds < 0 then ["days=-1", "seconds=" ++ toString (seconds + 86400)]
      else ["seconds=" ++ toString seconds]
    ["tzinfo=" ++ callLiteral "datetime.timezone" [callLiteral "datetime.timedelta" args]]

namespace Atom

/-- The literal of an atom. -/
def literal : Atom → String
  | null => "None"
  | bool b => if b then "True" else "False"
  | int n => toString n
  | float x => x.text
  | string s => textLiteral s
  | bytes content => bytesLiteral content
  | date d => callLiteral "datetime.date" [toString d.year, toString d.month, toString d.day]
  | time t => callLiteral "datetime.time" (t.parts.map toString)
  | dateTime d t offset =>
    callLiteral "datetime.datetime"
      ([toString d.year, toString d.month, toString d.day] ++ t.parts.map toString ++
        offsetLiteral offset)

def plain : Atom → String
  | string s => s
  | date d => d.text
  | time t => t.text
  | dateTime d t offset => d.text ++ " " ++ t.text ++ offsetText offset
  | a => a.literal

end Atom

namespace Value

mutual

def literal : Value → String
  | .atom a => a.literal
  | .list items => "[" ++ Text.join ", " (literals items) ++ "]"
  | .map fields => "\x7b" ++ Text.join ", " (entryLiterals fields) ++ "\x7d"
  | .set [] => "set()"
  | .set members => "\x7b" ++ Text.join ", " (members.map Atom.literal) ++ "\x7d"

def literals : List Value → List String
  | [] => []
  | v :: rest => literal v :: literals rest

def entryLiterals : List (Atom × Value) → List String
  | [] => []
  | (k, v) :: rest => (k.literal ++ ": " ++ literal v) :: entryLiterals rest

end

def plain : Value → String
  | .atom a => a.plain
  | v => v.literal

end Value

end ApiBindings
