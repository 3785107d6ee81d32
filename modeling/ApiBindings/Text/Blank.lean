/-!
# Blanks and lines

Blank characters, trimming, words and lines.  The blanks are the Unicode white space together with
the four separators U+001C to U+001F; a line ends at any of the Unicode line boundaries.
-/

namespace ApiBindings.Text

def isBlank (c : Char) : Bool :=
  let n := c.toNat
  (0x09 ≤ n && n ≤ 0x0D) || (0x1C ≤ n && n ≤ 0x20) || n == 0x85 || n == 0xA0 || n == 0x1680 ||
    (0x2000 ≤ n && n ≤ 0x200A) || n == 0x2028 || n == 0x2029 || n == 0x202F || n == 0x205F ||
    n == 0x3000

def trimEnd (s : List Char) : List Char := (s.reverse.dropWhile isBlank).reverse

def trim (s : List Char) : List Char := trimEnd (s.dropWhile isBlank)

/-- Appends the word under way, if it has any character; it is kept in reverse. -/
def closeWord (word : List Char) (rest : List (List Char)) : List (List Char) :=
  if word.isEmpty then rest else word.reverse :: rest

/-- The runs of characters that are no blanks. -/
def words : List Char → List (List Char) :=
  go []
where
  /-- Reads on with the word under way, in reverse. -/
  go (word : List Char) : List Char → List (List Char)
    | [] => closeWord word []
    | c :: cs => if isBlank c then closeWord word (go [] cs) else go (c :: word) cs

def endsLine (c : Char) : Bool :=
  let n := c.toNat
  (0x0A ≤ n && n ≤ 0x0D) || (0x1C ≤ n && n ≤ 0x1E) || n == 0x85 || n == 0x2028 || n == 0x2029

/-- The lines of a text without their ends; a carriage return and the line feed after it are one
end. -/
def lines : List Char → List (List Char) :=
  go []
where
  /-- Reads on with the line under way, in reverse. -/
  go (line : List Char) : List Char → List (List Char)
    | [] => closeWord line []
    | '\r' :: '\n' :: cs => line.reverse :: go [] cs
    | c :: cs => if endsLine c then line.reverse :: go [] cs else go (c :: line) cs

end ApiBindings.Text
