/-!
# JSON syntax errors

What is wrong with a JSON text and where.  A position counts characters from 0; the message also
gives it as line and column from 1.
-/

namespace ApiBindings.Json

/-- What is wrong with a JSON text. -/
inductive Fault where
  | byteOrderMark
  | missingValue
  | missingName
  | missingColon
  | missingComma
  | extraData
  | openString
  | badEscape
  | badCodeUnit
  | controlCharacter
  | longInteger
deriving DecidableEq, Repr

/-- A fault and the number of characters before it. -/
structure Stop where
  fault : Fault
  position : Nat
deriving DecidableEq, Repr

/-- A fault and its place, the line and the column counted from 1. -/
structure SyntaxError where
  fault : Fault
  position : Nat
  line : Nat
  column : Nat
deriving DecidableEq, Repr

/-- The place of a stop in the text `source`. -/
def Stop.locate (stop : Stop) (source : List Char) : SyntaxError :=
  let before := source.take stop.position
  ⟨stop.fault, stop.position, before.count '\n' + 1,
    (before.reverse.takeWhile (· != '\n')).length + 1⟩

/-- The description of a fault. -/
def Fault.describe : Fault → String
  | byteOrderMark => "Unexpected UTF-8 BOM (decode using utf-8-sig)"
  | missingValue => "Expecting value"
  | missingName => "Expecting property name enclosed in double quotes"
  | missingColon => "Expecting ':' delimiter"
  | missingComma => "Expecting ',' delimiter"
  | extraData => "Extra data"
  | openString => "Unterminated string starting at"
  | badEscape => "Invalid \\escape"
  | badCodeUnit => "Invalid \\uXXXX escape"
  | controlCharacter => "Invalid control character at"
  | longInteger => "Integer with too many digits"

def SyntaxError.message (e : SyntaxError) : String :=
  e.fault.describe ++ ": line " ++ toString e.line ++ " column " ++ toString e.column ++
    " (char " ++ toString e.position ++ ")"

end ApiBindings.Json
