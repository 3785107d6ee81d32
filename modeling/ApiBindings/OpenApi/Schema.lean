import ApiBindings.Document.Value

/-!
# Schemas

The typed form of a schema node and the two ways in which the synthesis of types looks at it: the
`Kind` follows from its `type`, the `Shape` from the first composition that it has.
-/

namespace ApiBindings

/-- A key that may be left out, given as null, or given with a value. -/
inductive Given (α : Type) where
  | absent
  | null
  | value (a : α)
deriving DecidableEq, Repr

namespace Given

variable {α : Type}

def toOption : Given α → Option α
  | value a => some a
  | _ => none

def getD (given : Given α) (fallback : α) : α := given.toOption.getD fallback

@[simp] theorem toOption_value (a : α) : (value a).toOption = some a := rfl

@[simp] theorem toOption_null : (null : Given α).toOption = none := rfl

@[simp] theorem toOption_absent : (absent : Given α).toOption = none := rfl

end Given

/-- A pointer to a component, or the object itself. -/
inductive Referable (α : Type) where
  | ref (target : String)
  | inline (object : α)
deriving Repr

/-- What is said about properties that are not listed: allowed or not, or the schema of all. -/
inductive Additional (α : Type) where
  | flag (allowed : Bool)
  | node (schema : α)
deriving Repr

/-- A schema.  `extras` are the keys that play no part in the synthesis of types. -/
structure Schema where
  type : Given String
  enum : Given (List Value)
  items : Given (Referable Schema)
  properties : Given (List (String × Referable Schema))
  required : Given (List String)
  additional : Given (Additional (Referable Schema))
  allOf : Given (List (Referable Schema))
  oneOf : Given (List (Referable Schema))
  nullable : Given Bool
  extras : List (String × Value)

abbrev SchemaNode := Referable Schema

def Schema.empty : Schema :=
  ⟨.absent, .absent, .absent, .absent, .absent, .absent, .absent, .absent, .absent, []⟩

instance : Inhabited Schema := ⟨.empty⟩

/-! ## Kind and shape -/

/-- What the `type` of a schema says about its values. -/
inductive Kind where
  | null
  | number
  | boolean
  | string
  | array
  | object
deriving DecidableEq, Repr

/-- The composition of an object-like schema, the earlier ones taking precedence. -/
inductive Shape where
  | allOf
  | oneOf
  | properties
  | additionalProperties
  | empty
  | unknown
deriving DecidableEq, Repr

def numericTypes : List String :=
  ["integer", "long", "float", "double", "number", "int32", "int64"]

def stringLikeTypes : List String :=
  ["byte", "binary", "date", "datetime", "date-time", "password"]

namespace Schema

/-- The `type` in lower case, empty if there is none.  Only ASCII letters are lowered; no word that
it is compared with holds another letter. -/
def typeWord (s : Schema) : String := (s.type.getD "").toLower

/-- The kind of a schema; an unknown or missing type counts as an object. -/
def kind (s : Schema) : Kind :=
  if s.typeWord ∈ numericTypes then .number
  else if s.typeWord = "null" then .null
  else if s.typeWord = "boolean" then .boolean
  else if s.typeWord = "string" ∨ s.typeWord ∈ stringLikeTypes then .string
  else if s.typeWord = "array" then .array
  else .object

def isFilled {α : Type} : Given (List α) → Bool
  | .value (_ :: _) => true
  | _ => false

/-- whether other properties are given and not just forbidden -/
def isOpen {α : Type} : Given (Additional α) → Bool
  | .value (.flag allowed) => allowed
  | .value (.node _) => true
  | _ => false

def shape (s : Schema) : Shape :=
  if isFilled s.allOf then .allOf
  else if isFilled s.oneOf then .oneOf
  else if s.properties.toOption.isSome then .properties
  else if isOpen s.additional then .additionalProperties
  else if s.typeWord = "object" then .empty
  else .unknown

end Schema

end ApiBindings
