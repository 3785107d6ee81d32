import ApiBindings.Text.Composed
import ApiBindings.Text.Punycode
import ApiBindings.Web.Host.Character

/-!
# Labels of host names

A host name consists of labels with points between them.  A label in other characters than ASCII is
sent in punycode behind `xn--`; it has to be composed, to hold admitted characters only, some of
them only beside certain others, and to be written in one direction.
-/

namespace ApiBindings.Web.Host

open Text

/-- Why a text is no label or no host name. -/
inductive Fault where
  /-- It has not the form of one. -/
  | malformed
  /-- It holds a character that is not admitted. -/
  | character
  /-- It holds a character that is not admitted at its place. -/
  | context
  /-- Its characters do not run in one direction. -/
  | direction
deriving DecidableEq, Repr

/-! ## Form -/

/-- whether the hyphens of a label are in order: none at an end, and not two behind the second
character -/
def soundHyphens (label : List Char) : Bool :=
  (label.drop 2).take 2 != ['-', '-'] && label.head? != some '-' && label.getLast? != some '-'

def wellFormed (label : List Char) : Bool :=
  !label.isEmpty && label.length ≤ 254 && isComposed label && soundHyphens label &&
    !(label.head?.any isMark)

/-! ## Characters at their place -/

/-- whether the nearest letter, marks being passed over, is one of a set -/
def meets (letters : CharRanges) (s : List Char) : Bool :=
  match s.dropWhile isSeenThrough with
  | c :: _ => letters.has c
  | [] => false

/-- whether a mark that suppresses a vowel stands last before a place -/
def afterVirama (before : List Char) : Bool :=
  match before with
  | c :: _ => combiningClass c == 9
  | [] => false

/-- whether an invisible joiner is admitted between what stands before it, in reverse, and after it;
nothing if the character is no joiner -/
def joinerAdmitted? (before : List Char) (c : Char) (after : List Char) : Option Bool :=
  if c.toNat = 0x200C then
    some (afterVirama before || (meets joinsNextRanges before && meets joinsPreviousRanges after))
  else if c.toNat = 0x200D then some (afterVirama before)
  else none

/-- whether a character that is admitted beside certain others only is admitted between what stands
before it, in reverse, and after it; nothing if it is admitted nowhere -/
def admittedBetween? (before : List Char) (c : Char) (after : List Char) : Option Bool :=
  let n := c.toNat
  if n = 0xB7 then some (before.head? == some 'l' && after.head? == some 'l')
  else if n = 0x375 then some (after.head?.any greekRanges.has)
  else if n = 0x5F3 ∨ n = 0x5F4 then some (before.head?.any hebrewRanges.has)
  else if n = 0x30FB then some ((before ++ after).any fun c => c.toNat != 0x30FB && kanaRanges.has c)
  else if 0x660 ≤ n ∧ n ≤ 0x669 then
    some (!(before ++ after).any fun c => 0x6F0 ≤ c.toNat && c.toNat ≤ 0x6F9)
  else if 0x6F0 ≤ n ∧ n ≤ 0x6F9 then
    some (!(before ++ after).any fun c => 0x660 ≤ c.toNat && c.toNat ≤ 0x669)
  else none

/-- Checks the characters of a label after those before them, in reverse. -/
def checkCharacters (before : List Char) : List Char → Except Fault Unit
  | [] => .ok ()
  | c :: after =>
    if validRanges.has c then checkCharacters (c :: before) after
    else
      match joinerAdmitted? before c after, admittedBetween? before c after with
      | some true, _ => checkCharacters (c :: before) after
      | some false, _ => .error .malformed
      | none, some true => checkCharacters (c :: before) after
      | none, some false => .error .context
      | none, none => .error .character

/-! ## Directions -/

/-- whether characters run in one direction: a label with any letter or number that is written from
right to left starts with such a letter, holds none of the other direction and only one kind of
numbers, and ends with such a letter or a number -/
def soundDirections (ds : List Direction) : Bool :=
  !ds.contains .unknown &&
    if ds.contains .right || ds.contains .arabicNumber then
      ds.head? == some .right && !ds.contains .left &&
        !(ds.contains .arabicNumber && ds.contains .europeanNumber) &&
        match (ds.reverse.dropWhile (· == .mark)).head? with
        | some last => last == .right || last == .arabicNumber || last == .europeanNumber
        | none => false
    else true

def checkLabel (label : List Char) : Except Fault Unit := do
  if !wellFormed label then throw .malformed
  checkCharacters [] label
  if !soundDirections (label.map direction) then throw .direction

/-! ## The two forms of a label -/

def punycodeMark : List Char := "xn--".toList

def isAscii (s : List Char) : Bool := s.all fun c => c.toNat < 0x80

/-- The label that a label in ASCII stands for. -/
def shownLabel (label : List Char) : Except Fault (List Char) := do
  let label := label.map Char.toLower
  match afterStart? punycodeMark label with
  | none =>
    checkLabel label
    return label
  | some code =>
    if code.isEmpty || code.getLast? == some '-' then throw .malformed
    match Punycode.decode? code with
    | none => throw .malformed
    | some shown =>
      checkLabel shown
      return shown

def sentLabel (label : List Char) : Except Fault (List Char) := do
  let sent ←
    if isAscii label then do
      discard (shownLabel label)
      pure label
    else do
      checkLabel label
      pure (punycodeMark ++ Punycode.encode label)
  if 63 < sent.length then throw .malformed
  return sent

end ApiBindings.Web.Host
