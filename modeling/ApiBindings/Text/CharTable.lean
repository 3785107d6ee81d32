/-!
# Tables of characters

A `CharRanges` is a set of characters given by closed ranges of code points, `CharNumbers` give a
number to characters, and a `CharTable` says what single characters are replaced by.  All are read
from a compact text of hexadecimal words, so that a property of thousands of characters stays
readable as data.
-/

namespace ApiBindings.Text

def hexDigit? (c : Char) : Option Nat :=
  if '0' ≤ c ∧ c ≤ '9' then some (c.toNat - 48)
  else if 'a' ≤ c ∧ c ≤ 'f' then some (c.toNat - 87)
  else if 'A' ≤ c ∧ c ≤ 'F' then some (c.toNat - 55)
  else none

/-- The hexadecimal number at the front of a text, continuing from `acc`, and the rest. -/
def takeHex (acc : Nat) : List Char → Nat × List Char
  | [] => (acc, [])
  | c :: cs =>
    match hexDigit? c with
    | some d => takeHex (16 * acc + d) cs
    | none => (acc, c :: cs)

/-- Pieces between the occurrences of a character. -/
def splitAtChar (sep : Char) : List Char → List (List Char)
  | [] => [[]]
  | c :: cs =>
    match splitAtChar sep cs with
    | [] => [[c]]
    | piece :: rest => if c = sep then [] :: piece :: rest else (c :: piece) :: rest

/-- Pieces with a character between neighbours. -/
def joinAtChar (sep : Char) : List (List Char) → List Char
  | [] => []
  | [piece] => piece
  | piece :: next :: rest => piece ++ sep :: joinAtChar sep (next :: rest)

/-- The words of a table, separated by blanks and line ends. -/
def tableWords (text : String) : List (List Char) :=
  (splitAtChar ' ' (text.toList.map fun c => if c = '\n' then ' ' else c)).filter (!·.isEmpty)

/-! ## Sets of characters -/

/-- A set of characters: closed ranges of code points, ascending and apart. -/
abbrev CharRanges := List (Nat × Nat)

/-- Reads words `first` and `first-last`, separated by blanks. -/
def CharRanges.ofText (text : String) : CharRanges :=
  (tableWords text).map fun word =>
    match takeHex 0 word with
    | (first, '-' :: rest) => (first, (takeHex 0 rest).1)
    | (first, _) => (first, first)

def CharRanges.has (ranges : CharRanges) (c : Char) : Bool :=
  ranges.any fun r => r.1 ≤ c.toNat && c.toNat ≤ r.2

/-! ## Numbers of characters -/

/-- Numbers of characters: closed ranges of code points with the number of their characters. -/
abbrev CharNumbers := List (Nat × Nat × Nat)

/-- Reads words `first=number` and `first-last=number`, separated by blanks. -/
def CharNumbers.ofText (text : String) : CharNumbers :=
  (tableWords text).map fun word =>
    let (first, rest) := takeHex 0 word
    let (last, rest) := match rest with
      | '-' :: more => takeHex 0 more
      | _ => (first, rest)
    (first, last, (takeHex 0 (rest.drop 1)).1)

/-- The number of a character, zero where the table is silent. -/
def CharNumbers.number (numbers : CharNumbers) (c : Char) : Nat :=
  match numbers.find? fun r => r.1 ≤ c.toNat && c.toNat ≤ r.2.1 with
  | some r => r.2.2
  | none => 0

/-! ## Replacements -/

/-- What the characters of a run are replaced by. -/
inductive Image where
  /-- Every character of the run becomes the same text. -/
  | text (cs : List Char)
  /-- The run is moved as a whole so that it starts at this code point. -/
  | moved (start : Nat)

/-- A run of characters that are replaced alike. -/
structure Run where
  first : Nat
  last : Nat
  image : Image

/-- Replacements of single characters; a character outside all runs stays. -/
abbrev CharTable := List Run

/-- Reads a word `run=c,c,…` (the same text for all) or `run+c` (the run moved to `c`). -/
def Run.ofWord (word : List Char) : Run :=
  let (first, rest) := takeHex 0 word
  let (last, rest) := match rest with
    | '-' :: more => takeHex 0 more
    | _ => (first, rest)
  match rest with
  | '+' :: more => ⟨first, last, .moved (takeHex 0 more).1⟩
  | '=' :: [] => ⟨first, last, .text []⟩
  | '=' :: more =>
    ⟨first, last, .text ((splitAtChar ',' more).map fun code => Char.ofNat (takeHex 0 code).1)⟩
  | _ => ⟨first, last, .moved first⟩

/-- Reads words separated by blanks. -/
def CharTable.ofText (text : String) : CharTable :=
  (tableWords text).map Run.ofWord

/-- What a character is replaced by, itself where the table is silent. -/
def CharTable.image (table : CharTable) (c : Char) : List Char :=
  match table.find? fun run => run.first ≤ c.toNat && c.toNat ≤ run.last with
  | none => [c]
  | some ⟨_, _, .text cs⟩ => cs
  | some ⟨first, _, .moved start⟩ => [Char.ofNat (start + (c.toNat - first))]

end ApiBindings.Text
