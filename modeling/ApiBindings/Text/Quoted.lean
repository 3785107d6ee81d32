/-!
# Quoted text

A text as a string literal in double quotes, as it stands in JSON and in TypeScript.  Everything
outside printable ASCII is escaped: five control characters by a letter, all else by its 16-bit
units, so that a literal is plain ASCII on one line.
-/

namespace ApiBindings.Text

/-- The lower-case hexadecimal digit of a number below 16. -/
def hexDigitChar (n : Nat) : Char :=
  if n < 10 then Char.ofNat (48 + n) else Char.ofNat (87 + n)

/-- A 16-bit unit as four hexadecimal digits. -/
def hex4 (unit : Nat) : List Char :=
  [hexDigitChar (unit / 4096 % 16), hexDigitChar (unit / 256 % 16), hexDigitChar (unit / 16 % 16),
    hexDigitChar (unit % 16)]

def unitEscape (unit : Nat) : List Char := '\\' :: 'u' :: hex4 unit

/-- The letter that stands for a control character or a delimiter in an escape. -/
def escapeLetter? : Char → Option Char
  | '"' => some '"'
  | '\\' => some '\\'
  | '\n' => some 'n'
  | '\r' => some 'r'
  | '\t' => some 't'
  | '\x0c' => some 'f'
  | '\x08' => some 'b'
  | _ => none

/-- A character as it stands between the quotes. -/
def quotedChar (c : Char) : List Char :=
  match escapeLetter? c with
  | some letter => ['\\', letter]
  | none =>
    let n := c.toNat
    if 0x20 ≤ n ∧ n ≤ 0x7E then [c]
    else if n < 0x10000 then unitEscape n
    else unitEscape (0xD800 + (n - 0x10000) / 0x400) ++ unitEscape (0xDC00 + (n - 0x10000) % 0x400)

def quotedChars (s : List Char) : List Char := '"' :: (s.flatMap quotedChar ++ ['"'])

def quoted (s : String) : String := String.ofList (quotedChars s.toList)

end ApiBindings.Text
