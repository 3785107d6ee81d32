import ApiBindings.Yaml.Token

/-!
# Splitting a YAML text into tokens

The tokens of a text are found from left to right.  A key of a mapping is only recognised by the
colon behind it: every place where a key can begin is remembered, and when the colon comes, the
tokens for the key, and for the mapping if it begins here, are set in front of it.  A key stands on
one line and is not longer than 1024 characters.
-/

namespace ApiBindings.Yaml

/-- A place where a key may begin: the number of tokens before it, where it stands, and whether
nothing but a key can stand there. -/
structure PossibleKey where
  tokensBefore : Nat
  required : Bool
  index : Nat
  line : Nat
  column : Nat

/-- How far a text is split. -/
structure Scan where
  cursor : Cursor
  /-- The tokens found, the latest first. -/
  found : List Token
  count : Nat
  /-- The columns of the open blocks, the innermost first. -/
  indents : List Nat
  /-- whether a key may begin at the next token -/
  keyAllowed : Bool
  /-- The possible keys of the open flow collections, the innermost first, and last that of the
  block around them. -/
  possible : List (Option PossibleKey)

namespace Scan

def start (text : List Char) : Scan := ⟨.start text, [], 0, [], true, [none]⟩

def inFlow (s : Scan) : Bool := 1 < s.possible.length

/-- The column of the innermost block, -1 outside all blocks. -/
def indent (s : Scan) : Int :=
  match s.indents with
  | [] => -1
  | column :: _ => column

def push (t : Token) (s : Scan) : Scan := { s with found := t :: s.found, count := s.count + 1 }

/-- Sets tokens in front of the one with a given number of tokens before it. -/
def insertAt (tokensBefore : Nat) (tokens : List Token) (s : Scan) : Scan :=
  let later := s.count - tokensBefore
  { s with
    found := s.found.take later ++ tokens.reverse ++ s.found.drop later
    count := s.count + tokens.length }

/-! ## Possible keys -/

def isStale (s : Scan) (key : PossibleKey) : Bool :=
  key.line != s.cursor.line || 1024 < s.cursor.index - key.index

/-- Forgets a possible key if it cannot be one any more; a required one must not be. -/
def freshKey (s : Scan) : Option PossibleKey → Except Fault (Option PossibleKey)
  | none => .ok none
  | some key =>
    if s.isStale key then if key.required then .error .syntaxError else .ok none
    else .ok (some key)

/-- Forgets the possible keys that cannot be keys any more. -/
def dropStale (s : Scan) : Except Fault Scan :=
  (s.possible.mapM s.freshKey).map fun possible => { s with possible := possible }

def setPossible (key : Option PossibleKey) (s : Scan) : Scan :=
  { s with possible := key :: s.possible.tail }

/-- Forgets the possible key of the innermost level, which must not be required. -/
def forgetKey (s : Scan) : Except Fault Scan :=
  match s.possible.head?.join with
  | some key => if key.required then .error .syntaxError else .ok (s.setPossible none)
  | none => .ok s

/-- Remembers that a key may begin at the cursor. -/
def rememberKey (s : Scan) : Except Fault Scan :=
  if s.keyAllowed then do
    let s ← s.forgetKey
    let required := !s.inFlow && s.indent == (s.cursor.column : Int)
    return s.setPossible
      (some ⟨s.count, required, s.cursor.index, s.cursor.line, s.cursor.column⟩)
  else .ok s

/-! ## Blocks -/

def closeBlocks (column : Int) (s : Scan) : Scan :=
  if s.inFlow then s
  else
    let closed := s.indents.takeWhile fun (i : Nat) => column < (i : Int)
    { s with
      found := List.replicate closed.length .blockEnd ++ s.found
      count := s.count + closed.length
      indents := s.indents.drop closed.length }

def openBlock? (column : Nat) (s : Scan) : Option Scan :=
  if s.indent < (column : Int) then some { s with indents := column :: s.indents } else none

def openBlock (t : Token) (s : Scan) : Scan :=
  match s.openBlock? s.cursor.column with
  | some opened => opened.push t
  | none => s

/-! ## Single tokens -/

def moveTo (c : Cursor) (s : Scan) : Scan := { s with cursor := c }

def allowKey (allowed : Bool) (s : Scan) : Scan := { s with keyAllowed := allowed }

/-- A marker or directive, which ends all blocks; the cursor is behind it already. -/
def topLevel (t : Token) (after : Cursor) (s : Scan) : Except Fault Scan := do
  let s ← (s.closeBlocks (-1)).forgetKey
  return ((s.allowKey false).moveTo after).push t

def openFlow (t : Token) (s : Scan) : Except Fault Scan := do
  let s ← s.rememberKey
  let s := ((s.allowKey true).moveTo s.cursor.next).push t
  return { s with possible := none :: s.possible }

def closeFlow (t : Token) (s : Scan) : Except Fault Scan := do
  let s ← s.forgetKey
  if s.inFlow then
    let s := ((s.allowKey false).moveTo s.cursor.next).push t
    return { s with possible := s.possible.tail }
  else throw .syntaxError

def flowEntry (s : Scan) : Except Fault Scan := do
  let s ← (s.allowKey true).forgetKey
  return (s.moveTo s.cursor.next).push .flowEntry

/-- Opens a block for a sign that needs one, unless inside a flow collection. -/
def blockFor (start : Token) (s : Scan) : Except Fault Scan :=
  if s.inFlow then .ok s
  else if s.keyAllowed then .ok (s.openBlock start)
  else .error .syntaxError

def blockEntry (s : Scan) : Except Fault Scan := do
  let s ← s.blockFor .blockSequenceStart
  let s ← (s.allowKey true).forgetKey
  return (s.moveTo s.cursor.next).push .blockEntry

/-- A question mark in front of a key. -/
def explicitKey (s : Scan) : Except Fault Scan := do
  let s ← s.blockFor .blockMappingStart
  let s ← (s.allowKey !s.inFlow).forgetKey
  return (s.moveTo s.cursor.next).push .key

/-- A colon behind a key. -/
def colon (s : Scan) : Except Fault Scan :=
  match s.possible.head?.join with
  | some key =>
    let s := s.setPossible none
    let opened := if s.inFlow then none else s.openBlock? key.column
    let s := match opened with
      | some s => s.insertAt key.tokensBefore [.blockMappingStart, .key]
      | none => s.insertAt key.tokensBefore [.key]
    .ok (((s.allowKey false).moveTo s.cursor.next).push .value)
  | none => do
    let s ← s.blockFor .blockMappingStart
    let s ← (s.allowKey !s.inFlow).forgetKey
    return (s.moveTo s.cursor.next).push .value

def keyToken (read : Cursor → Except Fault (Token × Cursor)) (s : Scan) : Except Fault Scan := do
  let s ← s.rememberKey
  let (t, after) ← read s.cursor
  return ((s.allowKey false).moveTo after).push t

def quoted (s : Scan) : Except Fault Scan :=
  s.keyToken fun c => do
    let (text, after) ← quotedScalar c
    return (.scalar false (String.ofList text), after)

/-- A plain scalar; behind a line break a key may begin. -/
def plain (s : Scan) : Except Fault Scan := do
  let s ← s.rememberKey
  let (text, broken, after) := plainScalar s.inFlow (s.indent + 1).toNat s.cursor
  return ((s.allowKey broken).moveTo after).push (.scalar true (String.ofList text))

def block (s : Scan) : Except Fault Scan := do
  let s ← (s.allowKey true).forgetKey
  let (text, after) ← blockScalar s.indent s.cursor
  return (s.moveTo after).push (.scalar false (String.ofList text))

/-- whether a plain scalar may begin at the cursor -/
def startsPlain (s : Scan) : Bool :=
  let ch := s.cursor.char
  (!isBlankOrEnd ch && !"-?:,[]{}#&*!|>'\"%@`".toList.contains ch) ||
    (!isBlankOrEnd (s.cursor.peek 1) && (ch == '-' || (!s.inFlow && (ch == '?' || ch == ':'))))

/-! ## The whole text -/

/-- Skips spaces, comments and line breaks; outside flow collections a key may begin on a new
line. -/
def skipBlank : Nat → Scan → Scan
  | 0, s => s
  | fuel + 1, s =>
    let after := s.cursor.skipComment
    match after.lineBreak? with
    | some (_, place) => skipBlank fuel ((s.allowKey (s.keyAllowed || !s.inFlow)).moveTo place)
    | none => s.moveTo after

/-- Reads the token at the cursor. -/
def token (s : Scan) : Except Fault Scan :=
  let c := s.cursor
  let spaced := isBlankOrEnd (c.peek 1)
  if c.column = 0 ∧ c.char = '%' then do
    let (d, after) ← directive c.next
    s.topLevel (.directive d) after
  else if c.column = 0 ∧ c.atMarker '-' then s.topLevel .documentStart (c.skip 3)
  else if c.column = 0 ∧ c.atMarker '.' then s.topLevel .documentEnd (c.skip 3)
  else match c.char with
    | '[' => s.openFlow .flowSequenceStart
    | '{' => s.openFlow .flowMappingStart
    | ']' => s.closeFlow .flowSequenceEnd
    | '}' => s.closeFlow .flowMappingEnd
    | ',' => s.flowEntry
    | '*' => s.keyToken fun c => (anchorName c.next).map fun (name, after) => (.alias_ name, after)
    | '&' => s.keyToken fun c => (anchorName c.next).map fun (name, after) => (.anchor name, after)
    | '!' => s.keyToken fun c => (writtenTag c).map fun (t, after) => (.tag t, after)
    | '\'' => s.quoted
    | '"' => s.quoted
    | ch =>
      if ch == '-' && spaced then s.blockEntry
      else if ch == '?' && (s.inFlow || spaced) then s.explicitKey
      else if ch == ':' && (s.inFlow || spaced) then s.colon
      else if (ch == '|' || ch == '>') && !s.inFlow then s.block
      else if s.startsPlain then s.plain
      else .error .syntaxError

/-- Reads token after token up to the end of the text; every token has a character at least. -/
def run : Nat → Scan → Except Fault (List Token)
  | 0, _ => .error .syntaxError
  | fuel + 1, s => do
    let s ← (skipBlank (s.cursor.rest.length + 1) s).dropStale
    let s := s.closeBlocks s.cursor.column
    if s.cursor.rest.isEmpty then
      let s ← (s.closeBlocks (-1)).forgetKey
      return s.found.reverse
    else
      let s ← s.token
      run fuel s

end Scan

/-- The tokens of a text.  A mark of the byte order at the very start is skipped. -/
def tokens (text : List Char) : Except Fault (List Token) :=
  let text := match text with
    | '\uFEFF' :: rest => rest
    | text => text
  (Scan.start text).run (text.length + 2)

end ApiBindings.Yaml
