import ApiBindings.Number.Reading

/-!
# Texts and keys

The quoted texts of TOML, on one line or on several, with escapes or literally, and the keys that
are made of them and of bare words.  Each function takes the text still to be read and gives what it
read together with the rest, or nothing.
-/

namespace ApiBindings.Toml

/-! ## Blanks and comments -/

def isBlank (c : Char) : Bool := c == ' ' || c == '\t'

def isControl (c : Char) : Bool := (c.toNat < 32 && c != '\t') || c == '\x7f'

def skipBlanks (s : List Char) : List Char := s.dropWhile isBlank

/-- What follows a comment, if one begins here. -/
def skipComment : List Char → Option (List Char)
  | '#' :: rest =>
    let body := rest.takeWhile (· != '\n')
    if body.any isControl then none else some (rest.drop body.length)
  | s => some s

/-- What follows blanks, line ends and comments; the flag is set inside a comment. -/
def skipLines : Bool → List Char → Option (List Char)
  | _, [] => some []
  | false, c :: rest =>
    if isBlank c || c == '\n' then skipLines false rest
    else if c == '#' then skipLines true rest
    else some (c :: rest)
  | true, c :: rest =>
    if c == '\n' then skipLines false rest
    else if isControl c then none
    else skipLines true rest

/-! ## Escapes -/

/-- The character that a letter behind a backslash stands for. -/
def unescape? : Char → Option Char
  | 'b' => some '\x08'
  | 't' => some '\t'
  | 'n' => some '\n'
  | 'f' => some '\x0c'
  | 'r' => some '\r'
  | '"' => some '"'
  | '\\' => some '\\'
  | _ => none

/-- The character of `n` hexadecimal digits. -/
def hexChar (n : Nat) (s : List Char) : Option (Char × List Char) := do
  let digits := s.take n
  let code ← digitsValue? 16 0 digits
  if digits.length = n ∧ code.isValidChar then some (Char.ofNat code, s.drop n) else none

/-- The character of an escape; the backslash is already read. -/
def escape : List Char → Option (Char × List Char)
  | 'u' :: rest => hexChar 4 rest
  | 'U' :: rest => hexChar 8 rest
  | c :: rest => (unescape? c).map fun ch => (ch, rest)
  | [] => none

/-- What follows a backslash at the end of a line: the first character of a later line that is no
blank. -/
def foldedLine? (s : List Char) : Option (List Char) :=
  match skipBlanks s with
  | '\n' :: rest => some (rest.dropWhile fun c => isBlank c || c == '\n')
  | _ => none

/-! ## Quoted texts -/

/-- Reads a text with escapes up to its quotes, one or three of them; `acc` is what was read of it,
in reverse. -/
def escapedText (lines : Bool) : Nat → List Char → List Char → Option (List Char × List Char)
  | 0, _, _ => none
  | fuel + 1, acc, s =>
    match s with
    | [] => none
    | '"' :: rest =>
      if lines then
        match rest with
        | '"' :: '"' :: after => some (acc.reverse, after)
        | _ => escapedText lines fuel ('"' :: acc) rest
      else some (acc.reverse, rest)
    | '\\' :: rest =>
      match (if lines then foldedLine? rest else none) with
      | some after => escapedText lines fuel acc after
      | none => do
        let (c, after) ← escape rest
        escapedText lines fuel (c :: acc) after
    | c :: rest =>
      if isControl c && !(lines && c == '\n') then none else escapedText lines fuel (c :: acc) rest

def literalText (s : List Char) : Option (List Char × List Char) :=
  let body := s.takeWhile (· != '\'')
  match s.drop body.length with
  | '\'' :: rest => if body.any isControl then none else some (body, rest)
  | _ => none

/-- Reads a literal text up to three apostrophes; `acc` is what was read of it, in reverse. -/
def literalLines (acc : List Char) : List Char → Option (List Char × List Char)
  | [] => none
  | '\'' :: '\'' :: '\'' :: rest => some (acc.reverse, rest)
  | c :: rest =>
    if isControl c && c != '\n' then none else literalLines (c :: acc) rest

/-- One or two quotes right behind the closing ones belong to the text. -/
def withClosingQuotes (quote : Char) :
    Option (List Char × List Char) → Option (List Char × List Char)
  | none => none
  | some (body, rest) =>
    let extra := (rest.take 2).takeWhile (· == quote)
    some (body ++ extra, rest.drop extra.length)

/-- Leaves out a line end at the beginning. -/
def dropFirstBreak : List Char → List Char
  | '\n' :: rest => rest
  | s => s

/-- Reads a text in quotes of one kind on one line. -/
def lineText : List Char → Option (String × List Char)
  | '"' :: rest =>
    (escapedText false (rest.length + 1) [] rest).map fun (body, after) =>
      (String.ofList body, after)
  | '\'' :: rest => (literalText rest).map fun (body, after) => (String.ofList body, after)
  | _ => none

/-- Reads a text in quotes, of which three let it go on over several lines. -/
def quotedText (s : List Char) : Option (String × List Char) :=
  match s with
  | '"' :: '"' :: '"' :: rest =>
    let inside := dropFirstBreak rest
    (withClosingQuotes '"' (escapedText true (inside.length + 1) [] inside)).map
      fun (body, after) => (String.ofList body, after)
  | '\'' :: '\'' :: '\'' :: rest =>
    (withClosingQuotes '\'' (literalLines [] (dropFirstBreak rest))).map fun (body, after) =>
      (String.ofList body, after)
  | _ => lineText s

/-! ## Keys -/

def isBare (c : Char) : Bool := c.isAlphanum || c == '-' || c == '_'

def keyPart (s : List Char) : Option (String × List Char) :=
  let bare := s.takeWhile isBare
  if bare.isEmpty then lineText s else some (String.ofList bare, s.drop bare.length)

/-- Reads the parts of a key, with points between them, and the blanks behind it. -/
def key : Nat → List Char → Option (List String × List Char)
  | 0, _ => none
  | fuel + 1, s => do
    let (part, after) ← keyPart s
    match skipBlanks after with
    | '.' :: rest => do
      let (parts, after) ← key fuel (skipBlanks rest)
      return (part :: parts, after)
    | rest => return ([part], rest)

end ApiBindings.Toml
