/-!
# Places in a YAML text

A cursor is a place in a text: what is still to be read, and the line and column reached.  Behind
the last character there is a null character, which no text contains.
-/

namespace ApiBindings.Yaml

/-- What is wrong with a YAML text.  Apart from faults of syntax there are scalars that the value
of their type cannot be made of. -/
inductive Fault where
  | syntaxError
  | badNumber
  | emptyNumber
  | unknownBoolean
  | badTimestamp
  | badDate
  | badCodePoint
  | overflow
deriving DecidableEq, Repr

/-- A code point that no machine word holds. -/
@[match_pattern] abbrev Fault.hugeCodePoint : Fault := .overflow

/-! ## Characters -/

def isBreak (c : Char) : Bool :=
  c == '\n' || c == '\r' || c == '\x85' || c == '\u2028' || c == '\u2029'

def isEnd (c : Char) : Bool := c == '\x00' || isBreak c

def isSpaceOrEnd (c : Char) : Bool := c == ' ' || isEnd c

def isBlankOrEnd (c : Char) : Bool := c == '\t' || isSpaceOrEnd c

def isAllowed (c : Char) : Bool :=
  let n := c.toNat
  n == 0x09 || n == 0x0A || n == 0x0D || (0x20 ≤ n && n ≤ 0x7E) || n == 0x85 ||
    (0xA0 ≤ n && n ≤ 0xD7FF) || (0xE000 ≤ n && n ≤ 0xFFFD) || 0x10000 ≤ n

/-- whether a character may stand in the name of an anchor or a directive -/
def isNameChar (c : Char) : Bool := c.isAlphanum || c == '-' || c == '_'

/-! ## Cursors -/

/-- A place in a text. -/
structure Cursor where
  rest : List Char
  index : Nat
  line : Nat
  column : Nat

namespace Cursor

def start (text : List Char) : Cursor := ⟨text, 0, 0, 0⟩

def peek (c : Cursor) (distance : Nat) : Char := (c.rest[distance]?).getD '\x00'

def char (c : Cursor) : Char := c.peek 0

/-- The place behind one character. -/
def next (c : Cursor) : Cursor :=
  match c.rest with
  | [] => c
  | '\r' :: '\n' :: rest => ⟨'\n' :: rest, c.index + 1, c.line, c.column + 1⟩
  | ch :: rest =>
    if isBreak ch then ⟨rest, c.index + 1, c.line + 1, 0⟩
    else if ch == '\uFEFF' then ⟨rest, c.index + 1, c.line, c.column⟩
    else ⟨rest, c.index + 1, c.line, c.column + 1⟩

def skip : Nat → Cursor → Cursor
  | 0, c => c
  | n + 1, c => skip n c.next

def takeWhile (test : Char → Bool) (c : Cursor) : List Char × Cursor :=
  let taken := c.rest.takeWhile test
  (taken, c.skip taken.length)

def skipWhile (test : Char → Bool) (c : Cursor) : Cursor := (c.takeWhile test).2

def skipSpacesTo (column : Nat) (c : Cursor) : Cursor :=
  c.skip (min (c.rest.takeWhile (· == ' ')).length (column - c.column))

/-- The line break at the cursor as it is read, and the place behind it. -/
def lineBreak? (c : Cursor) : Option (Char × Cursor) :=
  match c.rest with
  | '\r' :: '\n' :: _ => some ('\n', c.skip 2)
  | ch :: _ =>
    if ch == '\u2028' || ch == '\u2029' then some (ch, c.next)
    else if isBreak ch then some ('\n', c.next)
    else none
  | [] => none

def skipBreak (c : Cursor) : Cursor :=
  match c.lineBreak? with
  | some (_, after) => after
  | none => c

def skipComment (c : Cursor) : Cursor :=
  let after := c.skipWhile (· == ' ')
  if after.char == '#' then after.skipWhile fun ch => !isEnd ch else after

/-- whether one of the two document markers stands at the cursor: three equal characters and then a
blank or the end -/
def atMarker (mark : Char) (c : Cursor) : Bool :=
  c.peek 0 == mark && c.peek 1 == mark && c.peek 2 == mark && isBlankOrEnd (c.peek 3)

def atDocumentMarker (c : Cursor) : Bool := c.atMarker '-' || c.atMarker '.'

def endLine (c : Cursor) : Except Fault Cursor :=
  let after := c.skipComment
  if isEnd after.char then .ok after.skipBreak else .error .syntaxError

end Cursor

end ApiBindings.Yaml
