import ApiBindings.Document.Extent
import ApiBindings.Document.Keyed
import ApiBindings.Document.Literal
import ApiBindings.OpenApi.Schema

/-!
# Checking the structure of a document

A reader of typed objects reports everything that is wrong at once.  An `Issue` is a problem and
the path to it; `Checked` collects the issues of all parts, in the order of the parts.
-/

namespace ApiBindings

/-- What is wrong with a value. -/
inductive Problem where
  | missing
  | notText
  | undecodableText
  | notList
  | notMapping
  | notObject (model : String)
  | notBoolean
  | unclearBoolean
  | emptyList
  | textKeyExpected
  | unknownKey
  | longKey
deriving DecidableEq, Repr

/-- The description of a problem. -/
def Problem.message : Problem → String
  | missing => "Field required"
  | notText => "Input should be a valid string"
  | undecodableText =>
    "Input should be a valid string, unable to parse raw data as a unicode string"
  | notList => "Input should be a valid list"
  | notMapping => "Input should be a valid dictionary"
  | notObject model => "Input should be a valid dictionary or instance of " ++ model
  | notBoolean => "Input should be a valid boolean"
  | unclearBoolean => "Input should be a valid boolean, unable to interpret input"
  | emptyList => "List should have at least 1 item after validation, not 0"
  | textKeyExpected => "Keys should be strings"
  | unknownKey => "Extra inputs are not permitted"
  | longKey =>
    "Value error, Exceeds the limit (4300 digits) for integer string conversion; use " ++
      "sys.set_int_max_str_digits() to increase the limit"

/-- A problem and the keys and indices that lead to it. -/
structure Issue where
  path : List String
  problem : Problem
deriving DecidableEq, Repr

def Issue.text (i : Issue) : String := Text.join "." i.path ++ ": " ++ i.problem.message

def Issue.under (key : String) (i : Issue) : Issue := ⟨key :: i.path, i.problem⟩

def Checked (α : Type) : Type := Except (List Issue) α

namespace Checked

variable {α β : Type}

def ok (a : α) : Checked α := Except.ok a

def fail (problem : Problem) : Checked α := Except.error [⟨[], problem⟩]

def failAt (key : String) (problem : Problem) : Checked α := Except.error [⟨[key], problem⟩]

/-- Applies a result to a result; if there are issues, those of the function come first. -/
def app (f : Checked (α → β)) (x : Checked α) : Checked β :=
  match f, x with
  | .ok f, .ok a => .ok (f a)
  | .ok _, .error issues => .error issues
  | .error issues, .ok _ => .error issues
  | .error issues, .error more => .error (issues ++ more)

def map (f : α → β) : Checked α → Checked β
  | .ok a => .ok (f a)
  | .error issues => .error issues

instance : Functor Checked := ⟨fun f x => x.map f, fun a x => x.map fun _ => a⟩

instance : Pure Checked := ⟨ok⟩

instance : Seq Checked := ⟨fun f x => app f (x ())⟩

/-- Moves the issues one step down. -/
def at_ (key : String) : Checked α → Checked α
  | .ok a => .ok a
  | .error issues => .error (issues.map (Issue.under key))

def all : List (Checked α) → Checked (List α)
  | [] => ok []
  | c :: rest => app (c.map List.cons) (all rest)

end Checked

/-! ## Single values -/

def utf8Text? (content : List UInt8) : Option String := String.fromUTF8? ⟨content.toArray⟩

/-- Reads a text; bytes are decoded. -/
def readText : Value → Checked String
  | .atom (.string s) => .ok s
  | .atom (.bytes content) =>
    match utf8Text? content with
    | some s => .ok s
    | none => .fail .undecodableText
  | _ => .fail .notText

def booleanWord? (word : String) : Option Bool :=
  let w := word.toLower
  if w ∈ ["1", "t", "true", "y", "yes", "on"] then some true
  else if w ∈ ["0", "f", "false", "n", "no", "off"] then some false
  else none

/-- Reads one of the two numbers that stand for truth values.  A number of more than 64 bits is not
considered. -/
def readBit (n : Int) : Checked Bool :=
  if n = 0 then .ok false
  else if n = 1 then .ok true
  else if -(power 2 63 : Int) ≤ n ∧ n < power 2 63 then .fail .unclearBoolean
  else .fail .notBoolean

/-- Reads a truth value, also from a word or a number that stands for one. -/
def readBoolean : Value → Checked Bool
  | .atom (.bool b) => .ok b
  | .atom (.int n) => readBit n
  | .atom (.float x) =>
    match x.toInt? with
    | some n => readBit n
    | none => .fail .notBoolean
  | .atom (.string s) =>
    match booleanWord? s with
    | some b => .ok b
    | none => .fail .unclearBoolean
  | .atom (.bytes content) =>
    match (utf8Text? content).bind booleanWord? with
    | some b => .ok b
    | none => .fail .unclearBoolean
  | _ => .fail .notBoolean

/-! ## Lists and mappings -/

def items? : Value → Option (List Value)
  | .list items => some items
  | .set members => some (members.map .atom)
  | _ => none

def readList {α : Type} (read : Value → Checked α) (v : Value) : Checked (List α) :=
  match items? v with
  | some items => .all (items.zipIdx.map fun entry => (read entry.1).at_ (toString entry.2))
  | none => .fail .notList

def keyLabel : Atom → String
  | .string s => s
  | .int n => if (Atom.int n).isLong then "<unprintable int object>" else toString n
  | .bool b => if b then "1" else "0"
  | a => a.literal

def readKey (key : Atom) : Checked String :=
  (((readText (.atom key)).at_ "[key]").at_ (keyLabel key))

def readEntry {α : Type} (read : Value → Checked α) (entry : Atom × Value) :
    Checked (String × α) :=
  .app ((readKey entry.1).map Prod.mk) ((read entry.2).at_ (keyLabel entry.1))

def readMapping {α : Type} (read : Value → Checked α) (v : Value) : Checked (List (String × α)) :=
  match v with
  | .map fields => (Checked.all (fields.map (readEntry read))).map mergeEntries
  | _ => .fail .notMapping

/-! ## Objects -/

def Fields.given (fields : Fields) (key : String) : Given Value :=
  match fields.get? key with
  | none => .absent
  | some (.atom .null) => .null
  | some v => .value v

def optionalField {α : Type} (read : Value → Checked α) (fields : Fields) (key : String) :
    Checked (Given α) :=
  match fields.given key with
  | .absent => .ok .absent
  | .null => .ok .null
  | .value v => ((read v).map Given.value).at_ key

def requiredField {α : Type} (read : Value → Checked α) (fields : Fields) (key : String) :
    Checked α :=
  match fields.get? key with
  | none => .failAt key .missing
  | some v => (read v).at_ key

def presentField {α : Type} (read : Value → Checked α) (fields : Fields) (key : String) :
    Checked (Option α) :=
  match fields.get? key with
  | none => .ok none
  | some v => ((read v).map some).at_ key

def spelling (fields : Fields) (name alternative : String) : String :=
  if !fields.has name && fields.has alternative then alternative else name

/-- The entries beside the known keys; every key has to be a text. -/
def readExtras (fields : Fields) (known : List String) : Checked (List (String × Value)) :=
  .map (List.filterMap id) (.all (fields.map fun entry =>
    match entry.1 with
    | .string key => .ok (if key ∈ known then none else some (key, entry.2))
    | key => .failAt (keyLabel key) .textKeyExpected))

/-- Reads a pointer to a component; whatever stands beside it is ignored. -/
def readReference (fields : Fields) : Checked String :=
  requiredField readText fields (spelling fields "$ref" "ref")

/-- Reads an object that a pointer may stand for: a mapping with `$ref` is a pointer. -/
def readReferable {α : Type} (read : Value → Checked α) (v : Value) : Checked (Referable α) :=
  match v with
  | .map fields =>
    if Fields.has fields "$ref" then ((readReference fields).map Referable.ref).at_ "ref"
    else ((read v).map Referable.inline).at_ "other"
  | _ => ((read v).map Referable.inline).at_ "other"

end ApiBindings
