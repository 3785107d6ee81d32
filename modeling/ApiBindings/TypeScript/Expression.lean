import ApiBindings.Text.Basic

/-!
# Type expressions and declarations

A type expression is kept as its text.  What matters about it later is which operators stand at its
top level, outside all brackets and string literals.
-/

namespace ApiBindings.TypeScript

/-- The two operators that build compound types. -/
inductive Operator where
  | union
  | intersection
deriving DecidableEq, Repr

/-- Where a scan of an expression is: how deep in brackets, and whether inside a string literal or
right behind a backslash in one. -/
structure ScanState where
  depth : Int := 0
  inText : Bool := false
  escaped : Bool := false
deriving DecidableEq, Repr

namespace ScanState

/-- One character further, with the operator found there if it is at the top level. -/
def step (s : ScanState) (c : Char) : ScanState × Option Operator :=
  if s.escaped then ({ s with escaped := false }, none)
  else if s.inText && c == '\\' then ({ s with escaped := true }, none)
  else if c == '"' then ({ s with inText := !s.inText }, none)
  else if s.inText then (s, none)
  else if c == '{' || c == '[' || c == '(' || c == '<' then ({ s with depth := s.depth + 1 }, none)
  else if c == '}' || c == ']' || c == ')' || c == '>' then ({ s with depth := s.depth - 1 }, none)
  else if s.depth == 0 && c == '|' then (s, some .union)
  else if s.depth == 0 && c == '&' then (s, some .intersection)
  else (s, none)

end ScanState

/-- The operators that a scan finds at the top level, in order. -/
def operatorsFrom (s : ScanState) : List Char → List Operator
  | [] => []
  | c :: cs =>
    match s.step c with
    | (s, some operator) => operator :: operatorsFrom s cs
    | (s, none) => operatorsFrom s cs

def topLevelOperators (expression : String) : List Operator := operatorsFrom {} expression.toList

def isCompound (expression : String) : Bool := !(topLevelOperators expression).isEmpty

def isUnion (expression : String) : Bool := (topLevelOperators expression).contains .union

/-- whether an expression begins and ends like an object type and is not compound -/
def isRecordLiteral (expression : String) : Bool :=
  Text.startsWith "\x7b" expression && Text.endsWith "\x7d" expression && !isCompound expression

/-! ## Declarations -/

/-- A named type, written as an interface or as a type alias. -/
structure Declaration where
  name : String
  expression : String
  interface : Bool
deriving DecidableEq, Repr

/-- Declares a name; only a record literal can become an interface. -/
def declare (name expression : String) (allowInterface : Bool) : Declaration :=
  ⟨name, expression, allowInterface && isRecordLiteral expression⟩

end ApiBindings.TypeScript
