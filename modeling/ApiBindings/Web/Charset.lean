import ApiBindings.Text.Blank
import ApiBindings.Text.CharTable
import ApiBindings.Text.Utf8

/-!
# Character sets of replies

A reply is sent as bytes.  Its content type may name the character set to read them in; without a
known one they are UTF-8.  Bytes that mean nothing are replaced.
-/

namespace ApiBindings.Web

/-! ## The name in a content type -/

/-- Cuts a text at semicolons, but not inside double quotes; a quote behind a backslash counts as any
other character. -/
def cutParameters (quoted : Bool) (piece : List Char) : List Char → List (List Char)
  | [] => [piece.reverse]
  | '\\' :: '"' :: rest => cutParameters quoted ('"' :: '\\' :: piece) rest
  | c :: rest =>
    if c = ';' ∧ !quoted then piece.reverse :: cutParameters false [] rest
    else cutParameters (quoted != (c == '"')) (c :: piece) rest

/-- Takes backslashes away from in front of backslashes and quotes. -/
def withoutEscapes : List Char → List Char
  | '\\' :: c :: rest =>
    if c = '\\' ∨ c = '"' then c :: withoutEscapes rest else '\\' :: withoutEscapes (c :: rest)
  | c :: rest => c :: withoutEscapes rest
  | [] => []
termination_by s => s.length

/-- The value of a parameter without the quotes or angle brackets around it. -/
def bareValue (s : List Char) : List Char :=
  let inner := (s.drop 1).dropLast
  match s.length, s.head?, s.getLast? with
  | _ + 2, some '"', some '"' => withoutEscapes inner
  | _ + 2, some '<', some '>' => inner
  | _, _, _ => s

def parameter? (name : List Char) (contentType : List Char) : Option (List Char) :=
  (cutParameters false [] contentType).findSome? fun piece =>
    let key := piece.takeWhile (· != '=')
    if (Text.trim key).map Char.toLower = name then
      some (bareValue (Text.trim (piece.drop (key.length + 1))))
    else none

/-! ## Character sets -/

/-- The character sets that can be told apart. -/
inductive Charset where
  | utf8
  | markedUtf8
  | ascii
  | latin1
  | latin9
  | windows1252
  | utf16 (bigEndian : Bool)
  | markedUtf16
deriving DecidableEq, Repr

/-- The name of a character set in letters and digits, with single underscores between its words. -/
def charsetWords (name : List Char) : List (List Char) :=
  Text.words (name.map fun c => if c.isAlphanum || c == '.' then c.toLower else ' ')

/-- The names of the character sets. -/
def charsetNames : List (Charset × List String) :=
  [(.utf8, ["utf_8", "utf8", "u8", "utf", "cp65001", "utf8_ucs2", "utf8_ucs4"]),
    (.markedUtf8, ["utf_8_sig"]),
    (.ascii, ["ascii", "us_ascii", "646", "us", "ansi_x3.4_1968", "ansi_x3_4_1968",
      "ansi_x3.4_1986", "cp367", "csascii", "ibm367", "iso646_us", "iso_646.irv_1991", "iso_ir_6"]),
    (.latin1, ["latin_1", "latin1", "latin", "l1", "8859", "iso8859", "iso8859_1", "iso_8859_1",
      "iso_8859_1_1987", "cp819", "csisolatin1", "ibm819", "iso_ir_100"]),
    (.latin9, ["iso8859_15", "iso_8859_15", "latin9", "l9"]),
    (.windows1252, ["cp1252", "1252", "windows_1252"]),
    (.markedUtf16, ["utf_16", "utf16", "u16"]),
    (.utf16 false, ["utf_16_le", "utf_16le", "unicodelittleunmarked"]),
    (.utf16 true, ["utf_16_be", "utf_16be", "unicodebigunmarked"])]

def Charset.ofName? (name : List Char) : Option Charset :=
  let word := String.ofList (Text.joinAtChar '_' (charsetWords name))
  (charsetNames.find? fun entry => entry.2.contains word).map (·.1)

/-! ## Reading bytes -/

/-- The characters that the bytes 128 to 159 stand for in Windows-1252. -/
def windowsTable : Text.CharTable := .ofText
  "80=20ac 81=fffd 82=201a 83=192 84=201e 85=2026 86-87+2020 88=2c6 89=2030 8a=160 8b=2039 8c=152
   8d=fffd 8e=17d 8f-90=fffd 91-92+2018 93-94+201c 95=2022 96-97+2013 98=2dc 99=2122 9a=161 9b=203a
   9c=153 9d=fffd 9e=17e 9f=178"

/-- The characters of Latin-9 that differ from those of Latin-1. -/
def latin9Table : Text.CharTable := .ofText
  "a4=20ac a6=160 a8=161 b4=17d b8=17e bc-bd+152 be=178"

/-- Pairs of bytes as units of 16 bits; nothing stands for a byte left over. -/
def units16 (bigEndian : Bool) : List UInt8 → List (Option Nat)
  | [] => []
  | [_] => [none]
  | a :: b :: rest =>
    some (if bigEndian then 256 * a.toNat + b.toNat else 256 * b.toNat + a.toNat) ::
      units16 bigEndian rest

/-- The characters of units of 16 bits. -/
def ofUnits16 : List (Option Nat) → List Char
  | [] => []
  | some high :: some low :: rest =>
    if 0xD800 ≤ high ∧ high < 0xDC00 ∧ 0xDC00 ≤ low ∧ low < 0xE000 then
      Char.ofNat (0x10000 + (high - 0xD800) * 0x400 + (low - 0xDC00)) :: ofUnits16 rest
    else if 0xD800 ≤ high ∧ high < 0xE000 then Text.replacement :: ofUnits16 (some low :: rest)
    else Char.ofNat high :: ofUnits16 (some low :: rest)
  | some unit :: rest =>
    if 0xD800 ≤ unit ∧ unit < 0xDC00 then [Text.replacement]
    else if 0xDC00 ≤ unit ∧ unit < 0xE000 then Text.replacement :: ofUnits16 rest
    else Char.ofNat unit :: ofUnits16 rest
  | none :: rest => Text.replacement :: ofUnits16 rest
termination_by units => units.length

/-- The characters that bytes stand for.  Bytes in UTF-16 of either order have to begin with a mark of
their order. -/
def Charset.read? : Charset → List UInt8 → Option (List Char)
  | utf8, bytes => some (Text.ofUtf8 bytes)
  | markedUtf8, bytes =>
    match bytes with
    | 0xEF :: 0xBB :: 0xBF :: rest => some (Text.ofUtf8 rest)
    | _ => some (Text.ofUtf8 bytes)
  | ascii, bytes =>
    some (bytes.map fun b => if b.toNat < 0x80 then Char.ofNat b.toNat else Text.replacement)
  | latin1, bytes => some (bytes.map fun b => Char.ofNat b.toNat)
  | latin9, bytes => some (bytes.flatMap fun b => latin9Table.image (Char.ofNat b.toNat))
  | windows1252, bytes => some (bytes.flatMap fun b => windowsTable.image (Char.ofNat b.toNat))
  | utf16 bigEndian, bytes => some (ofUnits16 (units16 bigEndian bytes))
  | markedUtf16, bytes =>
    match bytes with
    | 0xFF :: 0xFE :: rest => some (ofUnits16 (units16 false rest))
    | 0xFE :: 0xFF :: rest => some (ofUnits16 (units16 true rest))
    | _ :: _ :: _ => none
    | short => some (ofUnits16 (units16 false short))

/-- The text that bytes stand for by their content type; nothing if it cannot be read. -/
def textAs? (contentType : Option String) (bytes : List UInt8) : Option String :=
  let charset? := do
    let name ← parameter? "charset".toList (← contentType).toList
    Charset.ofName? name
  ((charset?.getD .utf8).read? bytes).map String.ofList

end ApiBindings.Web
