import ApiBindings.Text.CharTable
import ApiBindings.Yaml.ScalarText

/-!
# Tokens of a YAML text

The words of a YAML text.  Besides those that are written there are tokens for the start and the end
of a block, which follow from the indentation.
-/

namespace ApiBindings.Yaml

/-- A tag as it is written: a handle, if it has one, and a suffix. -/
structure WrittenTag where
  handle : Option String
  suffix : String
deriving DecidableEq, Repr

/-- A directive at the head of a document. -/
inductive Directive where
  | version (major : Nat)
  | tag (handle tagPrefix : String)
  | other
deriving DecidableEq, Repr

/-- A word of a text. -/
inductive Token where
  | directive (d : Directive)
  | documentStart
  | documentEnd
  | blockSequenceStart
  | blockMappingStart
  | blockEnd
  | flowSequenceStart
  | flowSequenceEnd
  | flowMappingStart
  | flowMappingEnd
  | blockEntry
  | flowEntry
  | key
  | value
  | alias_ (name : String)
  | anchor (name : String)
  | tag (t : WrittenTag)
  | scalar (plain : Bool) (text : String)
deriving DecidableEq, Repr

/-! ## Names -/

/-- The name of an anchor or an alias behind its sign. -/
def anchorName (c : Cursor) : Except Fault (String × Cursor) :=
  let (name, after) := c.takeWhile isNameChar
  let ch := after.char
  if name.isEmpty then .error .syntaxError
  else if isBlankOrEnd ch || ch == '?' || ch == ':' || ch == ',' || ch == ']' || ch == '}' ||
      ch == '%' || ch == '@' || ch == '`' then
    .ok (String.ofList name, after)
  else .error .syntaxError

/-! ## Tags -/

def isTagChar (c : Char) : Bool :=
  c.isAlphanum || "-;/?:@&=+$,_.!~*'()[]%".toList.contains c

/-- The bytes of escapes at the cursor, in reverse, and the place behind them. -/
def escapedBytes : Nat → List UInt8 → Cursor → Except Fault (List UInt8 × Cursor)
  | 0, bytes, c => .ok (bytes, c)
  | fuel + 1, bytes, c =>
    if c.char == '%' then
      match hexNumber? 2 c.next.rest with
      | some n => escapedBytes fuel (UInt8.ofNat n :: bytes) (c.skip 3)
      | none => .error .syntaxError
    else .ok (bytes, c)

/-- Reads a tag text, in which bytes may be escaped; `text` is what stands before, in reverse. -/
def tagTextFrom : Nat → List Char → Cursor → Except Fault (List Char × Cursor)
  | 0, text, c => .ok (text, c)
  | fuel + 1, text, c =>
    if c.char == '%' then do
      let (bytes, after) ← escapedBytes (c.rest.length + 1) [] c
      match String.fromUTF8? ⟨bytes.reverse.toArray⟩ with
      | some s => tagTextFrom fuel (s.toList.reverse ++ text) after
      | none => throw .syntaxError
    else if isTagChar c.char then tagTextFrom fuel (c.char :: text) c.next
    else .ok (text, c)

def tagText (c : Cursor) : Except Fault (String × Cursor) := do
  let (text, after) ← tagTextFrom (c.rest.length + 1) [] c
  if after.index = c.index then throw .syntaxError
  else return (String.ofList text.reverse, after)

/-- Reads a tag handle: an exclamation mark, or a name between two of them. -/
def tagHandle (c : Cursor) : Except Fault (String × Cursor) :=
  if c.char != '!' then .error .syntaxError
  else if c.peek 1 == ' ' then .ok ("!", c.next)
  else
    let (name, after) := c.next.takeWhile isNameChar
    if after.char == '!' then .ok (String.ofList ('!' :: (name ++ ['!'])), after.next)
    else .error .syntaxError

/-- whether a second exclamation mark stands in the word at the cursor -/
def hasHandle (c : Cursor) : Bool :=
  (c.next.rest.takeWhile fun ch => !isSpaceOrEnd ch).contains '!'

/-- Reads the tag at the cursor. -/
def writtenTag (c : Cursor) : Except Fault (WrittenTag × Cursor) := do
  let (tag, after) ←
    if c.peek 1 == '<' then do
      let (suffix, after) ← tagText (c.skip 2)
      if after.char == '>' then pure (WrittenTag.mk none suffix, after.next)
      else throw .syntaxError
    else if isBlankOrEnd (c.peek 1) then pure (WrittenTag.mk none "!", c.next)
    else do
      let (handle, after) ← if hasHandle c then tagHandle c else pure ("!", c.next)
      let (suffix, after) ← tagText after
      pure (WrittenTag.mk (some handle) suffix, after)
  if isSpaceOrEnd after.char then return (tag, after) else throw .syntaxError

/-! ## Directives -/

def versionNumber (c : Cursor) : Except Fault (Nat × Cursor) :=
  let (digits, after) := c.takeWhile Char.isDigit
  if digits.isEmpty then .error .syntaxError
  else .ok (digits.foldl (fun n d => 10 * n + (d.toNat - 48)) 0, after)

def versionValue (c : Cursor) : Except Fault (Directive × Cursor) := do
  let (major, after) ← versionNumber (c.skipWhile (· == ' '))
  if after.char != '.' then throw .syntaxError
  else
    let (_, after) ← versionNumber after.next
    if isSpaceOrEnd after.char then return (.version major, after) else throw .syntaxError

/-- Reads the handle and the text that it stands for in a directive. -/
def tagValue (c : Cursor) : Except Fault (Directive × Cursor) := do
  let (handle, after) ← tagHandle (c.skipWhile (· == ' '))
  if after.char != ' ' then throw .syntaxError
  else
    let (text, after) ← tagText (after.skipWhile (· == ' '))
    if isSpaceOrEnd after.char then return (.tag handle text, after) else throw .syntaxError

/-- Reads the directive behind its sign. -/
def directive (c : Cursor) : Except Fault (Directive × Cursor) := do
  let (name, after) := c.takeWhile isNameChar
  if name.isEmpty || !isSpaceOrEnd after.char then throw .syntaxError
  else
    let (d, after) ←
      if name = "YAML".toList then versionValue after
      else if name = "TAG".toList then tagValue after
      else pure (Directive.other, after.skipWhile fun ch => !isEnd ch)
    let after ← after.endLine
    return (d, after)

end ApiBindings.Yaml
