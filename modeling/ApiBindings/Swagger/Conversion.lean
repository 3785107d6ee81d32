import ApiBindings.Document.Literal

/-!
# Conversions of raw documents

A document of the older version is converted as it stands, before its structure is checked.  A
conversion collects warnings and stops where a value has not the form that it needs.
-/

namespace ApiBindings

/-- What a conversion stumbles over. -/
inductive Malformed where
  /-- The entries of something that is no mapping are asked for. -/
  | notMapping
  /-- A text is needed, and there is something else. -/
  | notText
  /-- A text is needed, and there are bytes. -/
  | bytesForText
  /-- The items of something that has none are asked for. -/
  | notIterable
  /-- An entry of something that has no named entries is asked for. -/
  | notIndexable
  /-- A value with parts stands for a key. -/
  | unusableKey
  /-- A parameter of a form has no name. -/
  | missingName
deriving DecidableEq, Repr

/-- A result with the warnings on the way to it. -/
structure Noted (α : Type) where
  value : α
  warnings : List String

def Conversion (α : Type) : Type := Except Malformed (Noted α)

namespace Conversion

variable {α β : Type}

def done (a : α) : Conversion α := .ok ⟨a, []⟩

def stop (m : Malformed) : Conversion α := .error m

/-- Goes on with a result; the warnings follow each other. -/
def andThen (x : Conversion α) (f : α → Conversion β) : Conversion β :=
  match x with
  | .error m => .error m
  | .ok a =>
    match f a.value with
    | .error m => .error m
    | .ok b => .ok ⟨b.value, a.warnings ++ b.warnings⟩

instance : Monad Conversion where
  pure := done
  bind := andThen

def warn (text : String) : Conversion Unit := .ok ⟨(), [text]⟩

/-- Converts every element of a list in order. -/
def each (f : α → Conversion β) : List α → Conversion (List β)
  | [] => done []
  | a :: rest => do
    let b ← f a
    let others ← each f rest
    return b :: others

def ofExcept (x : Except Malformed α) : Conversion α := x.map fun a => ⟨a, []⟩

end Conversion

/-! ## Parts of raw values -/

namespace Value

def entries : Value → Except Malformed Fields
  | .map fields => .ok fields
  | _ => .error .notMapping

/-- The items that a value is gone through by: those of a list or a set, the keys of a mapping, the
characters of a text, the numbers of bytes. -/
def iterated : Value → Except Malformed (List Value)
  | .list items => .ok items
  | .set members => .ok (members.map .atom)
  | .map fields => .ok (fields.map fun entry => .atom entry.1)
  | .atom (.string s) => .ok (s.toList.map fun c => .text (String.ofList [c]))
  | .atom (.bytes content) => .ok (content.map fun b => .atom (.int b.toNat))
  | _ => .error .notIterable

def holds (part : String) : Value → Except Malformed Bool
  | .atom (.string s) => .ok (Text.occursIn part.toList s.toList)
  | .list items => .ok (items.any (isText part))
  | .set members => .ok (members.any (· == .string part))
  | .map fields => .ok (Fields.has fields part)
  | _ => .error .notIterable

def asText : Value → Except Malformed String
  | .atom (.string s) => .ok s
  | .atom (.bytes _) => .error .bytesForText
  | _ => .error .notText

def asKey : Value → Except Malformed Atom
  | .atom a => .ok a
  | _ => .error .unusableKey

def orElse (v : Option Value) (fallback : Value) : Value :=
  match v with
  | some v => if v.truthy then v else fallback
  | none => fallback

end Value

def Fields.present? (fields : Fields) (key : String) : Option Value :=
  (fields.get? key).filter Value.truthy

def Fields.given? (fields : Fields) (key : String) : Option Value :=
  match fields.get? key with
  | some (.atom .null) => none
  | v => v

/-- A value in a message; a missing one is shown like null. -/
def shown (v : Option Value) : String := (v.getD .null).plain

end ApiBindings
