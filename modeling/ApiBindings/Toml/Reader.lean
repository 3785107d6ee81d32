import ApiBindings.Document.Extent
import ApiBindings.Toml.Scalar
import ApiBindings.Toml.Table

/-!
# Reading TOML

A TOML text is a list of lines, each of which is blank, opens a section or gives a value to a key.
The result is the mapping that they build.
-/

namespace ApiBindings.Toml

/-! ## Values

Of two steps one reads a character at least, so fuel beyond twice the length of the text is never
used up. -/

mutual

/-- Reads a value. -/
def value : Nat → List Char → Except Fault (Value × List Char)
  | 0, _ => .error .syntaxError
  | fuel + 1, s =>
    match s with
    | '"' :: _ => needed ((quotedText s).map fun (t, rest) => (.text t, rest))
    | '\'' :: _ => needed ((quotedText s).map fun (t, rest) => (.text t, rest))
    | '[' :: rest => do
      match ← needed (skipLines false rest) with
      | ']' :: after => return (.list [], after)
      | inside => elements fuel [] inside
    | '{' :: rest =>
      match skipBlanks rest with
      | '}' :: after => .ok (.map [], after)
      | inside => members fuel [] inside
    | _ => scalar s

/-- Reads the elements of an array from a value on; those before it are in reverse. -/
def elements : Nat → List Value → List Char → Except Fault (Value × List Char)
  | 0, _, _ => .error .syntaxError
  | fuel + 1, items, s => do
    let (v, rest) ← value fuel s
    match ← needed (skipLines false rest) with
    | ']' :: after => return (.list (v :: items).reverse, after)
    | ',' :: rest =>
      match ← needed (skipLines false rest) with
      | ']' :: after => return (.list (v :: items).reverse, after)
      | inside => elements fuel (v :: items) inside
    | _ => throw .syntaxError

/-- Reads the members of an inline table from a key on. -/
def members : Nat → Entries → List Char → Except Fault (Value × List Char)
  | 0, _, _ => .error .syntaxError
  | fuel + 1, entries, s => do
    let (path, rest) ← needed (key (s.length + 1) s)
    let rest ← needed (after? '=' rest)
    let (v, rest) ← value fuel (skipBlanks rest)
    let entries ← needed
      (Entries.dotted 0 (Entries.assign (path.getLast?.getD "") v) path.dropLast entries)
    match skipBlanks rest with
    | '}' :: after => return (.map (finishedFields entries), after)
    | ',' :: rest => members fuel entries (skipBlanks rest)
    | _ => throw .syntaxError

end

/-! ## Lines -/

/-- What the lines so far have built: the tables, the section that is open, and its number. -/
structure Progress where
  entries : Entries
  header : List String
  number : Nat

def atPath (path : List String) (change : String → Entries → Option Entries) (entries : Entries) :
    Option Entries :=
  Entries.within (change (path.getLast?.getD "")) path.dropLast entries

def openSection (p : Progress) (change : String → Entries → Option Entries)
    (path : List String) : Option Progress :=
  (atPath path change p.entries).map fun entries => ⟨entries, path, p.number + 1⟩

/-- Gives a value to a key of the open section. -/
def setKey (p : Progress) (path : List String) (v : Value) : Option Progress :=
  (Entries.within
    (Entries.dotted p.number (Entries.assign (path.getLast?.getD "") v) path.dropLast)
    p.header p.entries).map fun entries => { p with entries := entries }

def header (p : Progress) (change : String → Entries → Option Entries) (close : String)
    (s : List Char) : Option (Progress × List Char) := do
  let (path, rest) ← key (s.length + 1) (skipBlanks s)
  let p ← openSection p change path
  let rest ← Text.afterStart? close.toList rest
  return (p, rest)

/-- Reads what stands in a line beside blanks and comments. -/
def statement (p : Progress) (s : List Char) : Except Fault (Progress × List Char) :=
  match s with
  | [] => .ok (p, s)
  | '\n' :: _ => .ok (p, s)
  | '#' :: _ => .ok (p, s)
  | '[' :: '[' :: rest => needed (header p Entries.extend "]]" rest)
  | '[' :: rest => needed (header p Entries.declare "]" rest)
  | _ => do
    let (path, rest) ← needed (key (s.length + 1) s)
    let rest ← needed (after? '=' rest)
    let (v, rest) ← value (2 * rest.length + 1) (skipBlanks rest)
    if v.isTooDeep 2 then throw .tooDeep
    let p ← needed (setKey p path v)
    return (p, rest)

def lines : Nat → Progress → List Char → Except Fault Progress
  | 0, _, _ => .error .syntaxError
  | fuel + 1, p, s => do
    let (p, rest) ← statement p (skipBlanks s)
    match ← needed (skipComment (skipBlanks rest)) with
    | [] => return p
    | '\n' :: rest => lines fuel p rest
    | _ => throw .syntaxError

def read (text : List Char) : Except Fault Fields :=
  let s := Text.replaceAll "\r\n".toList "\n".toList text
  (lines (s.length + 1) ⟨[], [], 0⟩ s).map fun p => finishedFields p.entries

end ApiBindings.Toml
