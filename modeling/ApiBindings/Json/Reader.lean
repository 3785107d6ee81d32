import ApiBindings.Document.Value
import ApiBindings.Json.SyntaxError
import ApiBindings.Number.Reading

/-!
# Reading JSON

JSON texts as document values.  Integers have any size and are kept apart from floating-point
numbers; `NaN`, `Infinity` and `-Infinity` are read too.  Of two members of one name the later gives
the value and the earlier the place.  A unit of a surrogate pair that stands alone is read as
U+FFFD.
-/

namespace ApiBindings.Json

/-- The text still to be read, and how much was read before it. -/
structure Cursor where
  rest : List Char
  position : Nat

namespace Cursor

def skip (n : Nat) (c : Cursor) : Cursor := ⟨c.rest.drop n, c.position + n⟩

def skipBlanks (c : Cursor) : Cursor :=
  c.skip (c.rest.takeWhile fun ch => ch == ' ' || ch == '\t' || ch == '\n' || ch == '\r').length

def fail {α : Type} (c : Cursor) (fault : Fault) : Except Stop α :=
  .error ⟨fault, c.position⟩

end Cursor

/-! ## Texts -/

/-- The value of four hexadecimal digits. -/
def hexUnit? : List Char → Option Nat
  | [a, b, c, d] => do
    let a ← Text.hexDigit? a
    let b ← Text.hexDigit? b
    let c ← Text.hexDigit? c
    let d ← Text.hexDigit? d
    return 4096 * a + 256 * b + 16 * c + d
  | _ => none

/-- The character that a letter behind a backslash stands for. -/
def unescape? : Char → Option Char
  | '"' => some '"'
  | '\\' => some '\\'
  | '/' => some '/'
  | 'b' => some '\x08'
  | 'f' => some '\x0c'
  | 'n' => some '\n'
  | 'r' => some '\r'
  | 't' => some '\t'
  | _ => none

/-- The character of a code point, U+FFFD for a surrogate. -/
def charOf (n : Nat) : Char := if 0xD800 ≤ n ∧ n < 0xE000 then '\uFFFD' else Char.ofNat n

/-- Reads the digits of an escape `\u`; the cursor stands on the `u`.  A high surrogate takes a low
one with it.  At least one character has to follow the digits. -/
def codeUnits (c : Cursor) : Except Stop (Char × Cursor) :=
  let digits := (c.rest.drop 1).take 5
  match hexUnit? (digits.take 4) with
  | none => c.fail .badCodeUnit
  | some unit =>
    if digits.length < 5 then c.fail .badCodeUnit
    else
      let after := c.skip 5
      let pair := after.rest.take 7
      if 0xD800 ≤ unit ∧ unit < 0xDC00 ∧ pair.length = 7 ∧ pair.take 2 = ['\\', 'u'] then
        match hexUnit? ((pair.take 6).drop 2) with
        | none => .error ⟨.badCodeUnit, after.position + 1⟩
        | some low =>
          if 0xDC00 ≤ low ∧ low < 0xE000 then
            .ok (Char.ofNat (0x10000 + (unit - 0xD800) * 0x400 + (low - 0xDC00)), after.skip 6)
          else .ok (charOf unit, after)
      else .ok (charOf unit, after)

/-- Reads the characters of a text up to the closing quote; `start` is where the text began and
`acc` what was read of it, in reverse. -/
def textBody (fuel : Nat) (start : Nat) (acc : List Char) (c : Cursor) :
    Except Stop (String × Cursor) :=
  match fuel with
  | 0 => .error ⟨.openString, start⟩
  | fuel + 1 =>
    match c.rest with
    | [] => .error ⟨.openString, start⟩
    | '"' :: _ => .ok (String.ofList acc.reverse, c.skip 1)
    | '\\' :: [] => .error ⟨.openString, start⟩
    | '\\' :: 'u' :: _ => do
      let (ch, after) ← codeUnits (c.skip 1)
      textBody fuel start (ch :: acc) after
    | '\\' :: e :: _ =>
      match unescape? e with
      | some ch => textBody fuel start (ch :: acc) (c.skip 2)
      | none => c.fail .badEscape
    | ch :: _ =>
      if ch.toNat < 0x20 then c.fail .controlCharacter
      else textBody fuel start (ch :: acc) (c.skip 1)

/-- Reads a text; the cursor stands on its opening quote. -/
def text (fuel : Nat) (c : Cursor) : Except Stop (String × Cursor) :=
  textBody fuel c.position [] (c.skip 1)

/-! ## Numbers -/

def natOfDigits (digits : List Char) : Nat :=
  digits.foldl (fun n d => 10 * n + (d.toNat - 48)) 0

/-- The digits of an exponent with its mark and sign, if any digit is there. -/
def exponent? : List Char → Option (Int × Nat)
  | mark :: rest =>
    if mark = 'e' ∨ mark = 'E' then
      let (negative, digits, signs) := match rest with
        | '-' :: more => (true, more.takeWhile Char.isDigit, 2)
        | '+' :: more => (false, more.takeWhile Char.isDigit, 2)
        | more => (false, more.takeWhile Char.isDigit, 1)
      if digits.isEmpty then none
      else
        let n : Int := natOfDigits digits
        some (if negative then -n else n, signs + digits.length)
    else none
  | [] => none

/-- Reads a number.  It is floating-point if it has a fraction or an exponent; otherwise its digits
are limited in number. -/
def number (c : Cursor) : Except Stop (Value × Cursor) :=
  let negative := c.rest.head? == some '-'
  let body := if negative then c.rest.drop 1 else c.rest
  let whole := match body with
    | '0' :: _ => ['0']
    | more => more.takeWhile Char.isDigit
  if whole.isEmpty then c.fail .missingValue
  else
    let afterWhole := body.drop whole.length
    let fraction := match afterWhole with
      | '.' :: more => more.takeWhile Char.isDigit
      | _ => []
    let pointed := !fraction.isEmpty
    let afterFraction := if pointed then afterWhole.drop (fraction.length + 1) else afterWhole
    let (power, powerLength) := (exponent? afterFraction).getD (0, 0)
    let length := (if negative then 1 else 0) + whole.length +
      (if pointed then fraction.length + 1 else 0) + powerLength
    if pointed ∨ powerLength ≠ 0 then
      let x := .ofDecimal negative (natOfDigits (whole ++ fraction)) (power - fraction.length)
      .ok (.atom (.float x), c.skip length)
    else if maxDecimalDigits < whole.length then c.fail .longInteger
    else
      let n : Int := natOfDigits whole
      .ok (.atom (.int (if negative then -n else n)), c.skip length)

def wordValues : List (List Char × Value) :=
  [("null".toList, .null), ("true".toList, .bool true), ("false".toList, .bool false),
    ("NaN".toList, .atom (.float .notANumber)),
    ("Infinity".toList, .atom (.float (.infinite false))),
    ("-Infinity".toList, .atom (.float (.infinite true)))]

/-! ## Values

Of two steps one reads a character at least, so fuel beyond twice the length of the text is never
used up. -/

mutual

/-- Reads a value that begins at the cursor. -/
def value : Nat → Cursor → Except Stop (Value × Cursor)
  | 0, c => c.fail .missingValue
  | fuel + 1, c =>
    match c.rest with
    | '"' :: _ => do
      let (s, after) ← text fuel c
      return (.text s, after)
    | '{' :: _ =>
      let inside := (c.skip 1).skipBlanks
      if inside.rest.head? = some '}' then .ok (.map [], inside.skip 1)
      else members fuel [] inside
    | '[' :: _ =>
      let inside := (c.skip 1).skipBlanks
      if inside.rest.head? = some ']' then .ok (.list [], inside.skip 1)
      else elements fuel [] inside
    | _ =>
      match wordValues.find? fun word => word.1.isPrefixOf c.rest with
      | some (word, v) => .ok (v, c.skip word.length)
      | none => number c

/-- Reads the members of an object from a name on. -/
def members : Nat → Fields → Cursor → Except Stop (Value × Cursor)
  | 0, _, c => c.fail .missingName
  | fuel + 1, fields, c =>
    if c.rest.head? ≠ some '"' then c.fail .missingName
    else do
      let (name, after) ← text fuel c
      let colon := after.skipBlanks
      if colon.rest.head? ≠ some ':' then colon.fail .missingColon
      else
        let (v, after) ← value fuel (colon.skip 1).skipBlanks
        let fields := fields.insert (.string name) v
        let comma := after.skipBlanks
        match comma.rest.head? with
        | some '}' => return (.map fields, comma.skip 1)
        | some ',' => members fuel fields (comma.skip 1).skipBlanks
        | _ => comma.fail .missingComma

/-- Reads the elements of an array from a value on; those before it are in reverse. -/
def elements : Nat → List Value → Cursor → Except Stop (Value × Cursor)
  | 0, _, c => c.fail .missingValue
  | fuel + 1, items, c => do
    let (v, after) ← value fuel c
    let comma := after.skipBlanks
    match comma.rest.head? with
    | some ']' => return (.list (v :: items).reverse, comma.skip 1)
    | some ',' => elements fuel (v :: items) (comma.skip 1).skipBlanks
    | _ => comma.fail .missingComma

end

def readAll (source : List Char) : Except Stop Value :=
  if source.head? = some '\uFEFF' then .error ⟨.byteOrderMark, 0⟩
  else do
    let start : Cursor := ⟨source, 0⟩
    let (v, after) ← value (2 * source.length + 1) start.skipBlanks
    let stop := after.skipBlanks
    if stop.rest.isEmpty then return v else stop.fail .extraData

/-- Reads a whole text; an error is located by line and column. -/
def read (source : List Char) : Except SyntaxError Value :=
  (readAll source).mapError fun stop => stop.locate source

/-! ## Nesting -/

/-- What is known of the brackets in a text: whether it stands in quotes, and how deep it is and was
at most. -/
structure Brackets where
  quoted : Bool := false
  escaped : Bool := false
  level : Nat := 0
  deepest : Nat := 0

def Brackets.step (b : Brackets) (ch : Char) : Brackets :=
  if b.escaped then { b with escaped := false }
  else if b.quoted then { b with quoted := ch != '"', escaped := ch == '\\' }
  else if ch = '"' then { b with quoted := true }
  else if ch = '[' ∨ ch = '{' then
    { b with level := b.level + 1, deepest := max b.deepest (b.level + 1) }
  else if ch = ']' ∨ ch = '}' then { b with level := b.level - 1 }
  else b

def nesting (source : List Char) : Nat := (source.foldl Brackets.step {}).deepest

end ApiBindings.Json
