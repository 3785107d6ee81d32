import ApiBindings.CommandLine.Columns
import ApiBindings.CommandLine.Emoji
import ApiBindings.Text.Basic

/-!
# Styled text

Texts for the terminal may hold tags in square brackets, such as `[red]` and `[/red]`, which style
what stands between them.  On a terminal without styles only the rest is shown.  A tag begins with a
small letter or one of `#`, `/` and `@`; a backslash in front of it takes away its meaning.  Names of
emoji between colons become the emoji, and tabs become spaces.
-/

namespace ApiBindings.CommandLine

/-- A piece of a styled text. -/
inductive Piece where
  | plain (s : List Char)
  | tag (name : List Char)
deriving DecidableEq, Repr

/-! ## Tags -/

def startsTag (c : Char) : Bool := c.isLower || c == '#' || c == '/' || c == '@'

/-- The text of a tag whose opening bracket is already read, and what follows it. -/
def tagText? (s : List Char) : Option (List Char × List Char) :=
  match s with
  | c :: _ =>
    if startsTag c then
      let body := s.takeWhile fun c => c != ']' && c != '['
      match s.drop body.length with
      | ']' :: rest => some (body, rest)
      | _ => none
    else none
  | [] => none

/-- The tag at the beginning of a text behind its backslashes: their number, the text of the tag,
and what follows it. -/
def tagAt? (s : List Char) : Option (Nat × List Char × List Char) :=
  let escapes := (s.takeWhile (· == '\\')).length
  match s.drop escapes with
  | '[' :: rest => (tagText? rest).map fun (body, after) => (escapes, body, after)
  | _ => none

/-- The pieces of a tag behind backslashes.  Two backslashes stand for one; a single one left over
takes away the meaning of the tag. -/
def tagPieces (escapes : Nat) (body : List Char) : List Piece :=
  .plain (List.replicate (escapes / 2) '\\') ::
    [if escapes % 2 = 1 then .plain ('[' :: body ++ [']'])
      else .tag (body.takeWhile (· != '='))]

def addChar (c : Char) : List Piece → List Piece
  | .plain s :: rest => .plain (c :: s) :: rest
  | rest => .plain [c] :: rest

/-- The pieces of a text.  The characters of a tag already read are passed over. -/
def pieces : Nat → List Char → List Piece
  | _, [] => []
  | skip + 1, _ :: rest => pieces skip rest
  | 0, c :: rest =>
    match tagAt? (c :: rest) with
    | some (escapes, body, _) =>
      tagPieces escapes body ++ pieces (escapes + body.length + 1) rest
    | none => addChar c (pieces 0 rest)

/-! ## Shown text -/

/-- The name of a style without blanks around it, in small letters. -/
def styleName (name : List Char) : List Char := (Text.trim name).map Char.toLower

def closeStyle? (name : List Char) (styles : List (List Char)) : Option (List (List Char)) :=
  if name.isEmpty then
    match styles with
    | [] => none
    | _ :: rest => some rest
  else if styles.contains name then some (styles.erase name) else none

def isShown (c : Char) : Bool :=
  c != '\x07' && c != '\x08' && c != '\x0b' && c != '\x0c' && c != '\r'

def shownPlain (s : List Char) : List Char := (showEmoji 0 s).filter isShown

/-- A piece of plain text as it is shown: a backslash in front of a bracket is left out. -/
def shownPiece (s : List Char) : List Char :=
  shownPlain (Text.replaceAll "\\[".toList "[".toList s)

/-- What is shown of pieces inside open styles, nothing if a style is closed that is not open. -/
def shownPieces : List (List Char) → List Piece → Option (List Char)
  | _, [] => some []
  | styles, .plain s :: rest => (shownPieces styles rest).map (shownPiece s ++ ·)
  | styles, .tag ('/' :: name) :: rest => do
    let styles ← closeStyle? (styleName name) styles
    shownPieces styles rest
  | styles, .tag name :: rest => shownPieces (styleName name :: styles) rest

def shown? (text : String) : Option String := do
  let s := text.toList
  let shown ← if s.contains '[' then shownPieces [] (pieces 0 s) else some (shownPlain s)
  return String.ofList (expandTabs 0 shown)

end ApiBindings.CommandLine
