import ApiBindings.Text.CharTable
import ApiBindings.Yaml.Cursor

/-!
# The text of scalars

A scalar is written plainly, in quotes, or as a block of lines.  Each style folds lines in its own
way: a single line break between two lines becomes a space, and further ones are kept.
-/

namespace ApiBindings.Yaml

def foldBreak (lineBreak : Char) (breaks : List Char) : List Char :=
  if lineBreak ≠ '\n' then lineBreak :: breaks
  else if breaks.isEmpty then [' ']
  else breaks

/-! ## Plain scalars -/

/-- whether the piece of a plain scalar ends before a character; `next` is the one after it -/
def endsPlain (flow : Bool) (c next : Char) : Bool :=
  isBlankOrEnd c ||
    (c == ':' && (isBlankOrEnd next ||
      (flow && (next == ',' || next == '[' || next == ']' || next == '{' || next == '}')))) ||
    (flow && (c == ',' || c == '?' || c == '[' || c == ']' || c == '{' || c == '}'))

/-- The number of characters of a piece of a plain scalar. -/
def plainLength (flow : Bool) : List Char → Nat
  | [] => 0
  | c :: rest =>
    if endsPlain flow c (rest.head?.getD '\x00') then 0 else plainLength flow rest + 1

/-- The line breaks after the first one inside a plain scalar, in reverse, and the place behind
them; none if a document marker follows. -/
def plainBreaks : Nat → List Char → Cursor → Option (List Char) × Cursor
  | 0, breaks, c => (some breaks, c)
  | fuel + 1, breaks, c =>
    if c.char == ' ' then plainBreaks fuel breaks c.next
    else
      match c.lineBreak? with
      | none => (some breaks, c)
      | some (lineBreak, after) =>
        if after.atDocumentMarker then (none, after)
        else plainBreaks fuel (lineBreak :: breaks) after

/-- What stands between two pieces of a plain scalar, folded, the place behind it, and whether it
holds a line break; nothing if the scalar ends. -/
def plainSpaces (c : Cursor) : List Char × Cursor × Bool :=
  let (spaces, after) := c.takeWhile (· == ' ')
  match after.lineBreak? with
  | none => (spaces, after, false)
  | some (lineBreak, nextLine) =>
    if nextLine.atDocumentMarker then ([], nextLine, true)
    else
      match plainBreaks nextLine.rest.length [] nextLine with
      | (none, place) => ([], place, true)
      | (some breaks, place) => (foldBreak lineBreak breaks.reverse, place, true)

/-- Reads a plain scalar from a piece on; `text` are the characters before it, in reverse, and
`broken` says whether a line break came last.  Lines of a block have to be indented. -/
def plainFrom (flow : Bool) (indent : Nat) :
    Nat → List Char → List Char → Bool → Cursor → List Char × Bool × Cursor
  | 0, text, _, broken, c => (text, broken, c)
  | fuel + 1, text, spaces, broken, c =>
    if c.char == '#' then (text, broken, c)
    else
      let length := plainLength flow c.rest
      if length = 0 then (text, broken, c)
      else
        let text := (c.rest.take length).reverse ++ spaces.reverse ++ text
        let (spaces, after, crossed) := plainSpaces (c.skip length)
        if spaces.isEmpty || after.char == '#' || (!flow && after.column < indent) then
          (text, crossed, after)
        else plainFrom flow indent fuel text spaces crossed after

/-- Reads a plain scalar; the second part of the result says whether a line break follows it. -/
def plainScalar (flow : Bool) (indent : Nat) (c : Cursor) : List Char × Bool × Cursor :=
  let (text, broken, after) := plainFrom flow indent (c.rest.length + 1) [] [] false c
  (text.reverse, broken, after)

/-! ## Quoted scalars -/

/-- The line breaks after the first one inside quotes, and the place behind them. -/
def quotedBreaks : Nat → List Char → Cursor → Except Fault (List Char × Cursor)
  | 0, breaks, c => .ok (breaks.reverse, c)
  | fuel + 1, breaks, c =>
    if c.atDocumentMarker then .error .syntaxError
    else
      let after := c.skipWhile fun ch => ch == ' ' || ch == '\t'
      match after.lineBreak? with
      | none => .ok (breaks.reverse, after)
      | some (lineBreak, place) => quotedBreaks fuel (lineBreak :: breaks) place

/-- The blanks and line breaks at a place inside quotes, folded. -/
def quotedSpaces (c : Cursor) : Except Fault (List Char × Cursor) :=
  let (spaces, after) := c.takeWhile fun ch => ch == ' ' || ch == '\t'
  match after.lineBreak? with
  | none => if after.char == '\x00' then .error .syntaxError else .ok (spaces, after)
  | some (lineBreak, place) => do
    let (breaks, place) ← quotedBreaks (place.rest.length + 1) [] place
    return (foldBreak lineBreak breaks, place)

/-- The character that an escape of one letter stands for. -/
def escaped? : Char → Option Char
  | '0' => some '\x00'
  | 'a' => some '\x07'
  | 'b' => some '\x08'
  | 't' => some '\t'
  | '\t' => some '\t'
  | 'n' => some '\n'
  | 'v' => some '\x0b'
  | 'f' => some '\x0c'
  | 'r' => some '\r'
  | 'e' => some '\x1b'
  | ' ' => some ' '
  | '"' => some '"'
  | '\\' => some '\\'
  | '/' => some '/'
  | 'N' => some '\x85'
  | '_' => some '\xa0'
  | 'L' => some '\u2028'
  | 'P' => some '\u2029'
  | _ => none

/-- The number of hexadecimal digits that follow a letter in an escape. -/
def escapeWidth? : Char → Option Nat
  | 'x' => some 2
  | 'u' => some 4
  | 'U' => some 8
  | _ => none

/-- The number written by exactly `width` hexadecimal digits at the front of a text. -/
def hexNumber? (width : Nat) (s : List Char) : Option Nat :=
  let digits := s.take width
  if digits.length = width ∧ digits.all (fun d => (Text.hexDigit? d).isSome) then
    some (Text.takeHex 0 digits).1
  else none

/-- The character of a code point, U+FFFD for a surrogate. -/
def codePoint (n : Nat) : Except Fault Char :=
  if 0x80000000 ≤ n then .error .hugeCodePoint
  else if 0x110000 ≤ n then .error .badCodePoint
  else if 0xD800 ≤ n ∧ n ≤ 0xDFFF then .ok '\uFFFD'
  else .ok (Char.ofNat n)

/-- The character of two escaped units that make up a pair, if the second one follows. -/
def surrogatePair? (first : Nat) (after : List Char) : Option Char :=
  match after with
  | '\\' :: 'u' :: rest =>
    match hexNumber? 4 rest with
    | some second =>
      if 0xD800 ≤ first ∧ first ≤ 0xDBFF ∧ 0xDC00 ≤ second ∧ second ≤ 0xDFFF then
        some (Char.ofNat (0x10000 + (first - 0xD800) * 0x400 + (second - 0xDC00)))
      else none
    | none => none
  | _ => none

/-- Reads the escape behind a backslash: the characters that it stands for and the place behind
it. -/
def escape (c : Cursor) : Except Fault (List Char × Cursor) :=
  match escaped? c.char, escapeWidth? c.char with
  | some ch, _ => .ok ([ch], c.next)
  | none, some width =>
    match hexNumber? width c.next.rest with
    | none => .error .syntaxError
    | some n =>
      match surrogatePair? n (c.next.rest.drop width) with
      | some ch => .ok ([ch], c.next.skip (width + 6))
      | none => (codePoint n).map fun ch => ([ch], c.next.skip width)
  | none, none =>
    match c.lineBreak? with
    | some (_, after) => quotedBreaks (after.rest.length + 1) [] after
    | none => .error .syntaxError

def isQuotedText (c : Char) : Bool := c != '\'' && c != '"' && c != '\\' && !isBlankOrEnd c

/-- Reads a quoted scalar from behind its opening quote; `text` is in reverse. -/
def quotedFrom (double : Bool) : Nat → List Char → Cursor → Except Fault (List Char × Cursor)
  | 0, _, _ => .error .syntaxError
  | fuel + 1, text, c =>
    let ch := c.char
    if isQuotedText ch then quotedFrom double fuel (ch :: text) c.next
    else if ch == '\'' && !double then
      if c.peek 1 == '\'' then quotedFrom double fuel ('\'' :: text) (c.skip 2)
      else .ok (text.reverse, c.next)
    else if ch == '"' && double then .ok (text.reverse, c.next)
    else if ch == '\\' && double then do
      let (chars, after) ← escape c.next
      quotedFrom double fuel (chars.reverse ++ text) after
    else if ch == '\'' || ch == '"' || ch == '\\' then quotedFrom double fuel (ch :: text) c.next
    else do
      let (spaces, after) ← quotedSpaces c
      quotedFrom double fuel (spaces.reverse ++ text) after

def quotedScalar (c : Cursor) : Except Fault (List Char × Cursor) :=
  quotedFrom (c.char == '"') (c.rest.length + 1) [] c.next

/-! ## Blocks -/

/-- What becomes of the line breaks at the end of a block. -/
inductive Chomping where
  | clip
  | strip
  | keep
deriving DecidableEq, Repr

/-- The sign for what becomes of the last line breaks. -/
def chomping? : Char → Option Chomping
  | '+' => some .keep
  | '-' => some .strip
  | _ => none

/-- Reads the digit for the indentation of a block; zero is none. -/
def increment (c : Cursor) : Except Fault (Option Nat × Cursor) :=
  if c.char == '0' then .error .syntaxError
  else if c.char.isDigit then .ok (some (c.char.toNat - 48), c.next)
  else .ok (none, c)

/-- Reads the signs in front of a block: a chomping sign and an indentation digit in any order. -/
def blockSigns (c : Cursor) : Except Fault (Chomping × Option Nat × Cursor) := do
  let (sign, number, after) ← match chomping? c.char with
    | some sign => do
      let (number, after) ← increment c.next
      pure (sign, number, after)
    | none => do
      let (number, after) ← increment c
      match number, chomping? after.char with
      | some _, some sign => pure (sign, number, after.next)
      | _, _ => pure (Chomping.clip, number, after)
  if isSpaceOrEnd after.char then return (sign, number, after) else throw .syntaxError

/-- The line breaks in front of a block whose indentation is not given, in reverse, the greatest
column reached, and the place behind. -/
def blockStart : Nat → List Char → Nat → Cursor → List Char × Nat × Cursor
  | 0, breaks, column, c => (breaks, column, c)
  | fuel + 1, breaks, column, c =>
    if c.char == ' ' then blockStart fuel breaks (max column c.next.column) c.next
    else
      match c.lineBreak? with
      | some (lineBreak, after) => blockStart fuel (lineBreak :: breaks) column after
      | none => (breaks, column, c)

/-- The line breaks between two lines of a block, in reverse, and the place behind. -/
def blockBreaks (indent : Nat) : Nat → List Char → Cursor → List Char × Cursor
  | 0, breaks, c => (breaks, c)
  | fuel + 1, breaks, c =>
    let after := c.skipSpacesTo indent
    match after.lineBreak? with
    | some (lineBreak, place) => blockBreaks indent fuel (lineBreak :: breaks) place
    | none => (breaks, after)

def atBlockLine (indent : Nat) (c : Cursor) : Bool := c.column == indent && c.char != '\x00'

/-- Reads the lines of a block from one on.  `text` is what stands before it, in reverse and with
the breaks in front of the line. -/
def blockLines (folded : Bool) (chomping : Chomping) (indent : Nat) :
    Nat → List Char → Cursor → List Char × Cursor
  | 0, text, c => (text, c)
  | fuel + 1, text, c =>
    let plainStart := c.char != ' ' && c.char != '\t'
    let (line, lineEnd) := c.takeWhile fun ch => !isEnd ch
    let text := line.reverse ++ text
    let (lineBreak, nextLine) : List Char × Cursor := match lineEnd.lineBreak? with
      | some (ch, after) => ([ch], after)
      | none => ([], lineEnd)
    let (breaks, place) := blockBreaks indent (nextLine.rest.length + 1) [] nextLine
    if atBlockLine indent place then
      let joint : List Char :=
        if folded && lineBreak == ['\n'] && plainStart && place.char != ' ' && place.char != '\t'
        then (if breaks.isEmpty then [' '] else [])
        else lineBreak
      blockLines folded chomping indent fuel (breaks ++ joint ++ text) place
    else
      let tail : List Char := match chomping with
        | .strip => []
        | .clip => lineBreak
        | .keep => breaks ++ lineBreak
      (tail ++ text, place)

/-- Reads a block, folded or as it is, inside a collection of the given indentation. -/
def blockScalar (indent : Int) (c : Cursor) : Except Fault (List Char × Cursor) := do
  let folded := c.char == '>'
  let (chomping, number, afterSigns) ← blockSigns c.next
  let first ← afterSigns.endLine
  let least := max 1 (indent + 1).toNat
  let (breaks, column, place) : List Char × Nat × Cursor := match number with
    | some n =>
      let column := least + n - 1
      let (breaks, place) := blockBreaks column (first.rest.length + 1) [] first
      (breaks, column, place)
    | none =>
      let (breaks, column, place) := blockStart (first.rest.length + 1) [] 0 first
      (breaks, max least column, place)
  if atBlockLine column place then
    let (text, after) := blockLines folded chomping column (place.rest.length + 1) breaks place
    return (text.reverse, after)
  else
    let tail := if chomping = .keep then breaks else []
    return (tail.reverse, place)

end ApiBindings.Yaml
