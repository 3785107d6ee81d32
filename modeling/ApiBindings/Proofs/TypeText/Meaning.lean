import ApiBindings.Proofs.TypeText.Tree
import ApiBindings.Synthesis.SchemaType

/-!
# The type that a schema denotes

The meaning of a schema node as a tree: a pointer is the name of its component, and an object means
what the first composition says that it has.

* `meaning`                the type of a schema node, if every part of it has one;
* `bodyMeaning_object`     the compositions of an object in their order of precedence.
-/

namespace ApiBindings

open TypeScript

/-! ## meanings -/

/-- the string literals of an enumeration, if all its values are texts -/
def literals? : List Value → Option (List TypeExpr)
  | [] => some []
  | .atom (.string s) :: rest => (literals? rest).map (.literal s :: ·)
  | _ :: _ => none

def stringMeaning : Given (List Value) → Option TypeExpr
  | .value (v :: rest) => (literals? (v :: rest)).map (.compound .union)
  | _ => some (.keyword .string)

/-- the union with null, if the schema asks for it and the type is not null already -/
def orNull (nullable : Given Bool) (e : TypeExpr) : TypeExpr :=
  match nullable, e.normal with
  | .value true, .keyword .null => e
  | .value true, _ => .compound .union [e, .keyword .null]
  | _, _ => e

/-- the type of an object about which nothing more is said -/
def looseMeaning (typeWord : String) : TypeExpr :=
  if typeWord = "object" then .record [] else .keyword .any

mutual

/-- The type that a schema node denotes; none if it has a part that denotes no type.  A pointer is
the name of its component. -/
def meaning : SchemaNode → Option TypeExpr
  | .ref target =>
    (splitReference? target).map fun (name, suffix) => .named (pascal name ++ suffix)
  | .inline schema => (bodyMeaning schema.kind schema).map (orNull schema.nullable)
termination_by structural node => node

/-- the type of a schema of this kind, without the null that may be added to it -/
def bodyMeaning (kind : Kind) : Schema → Option TypeExpr
  | ⟨type, enum, items, properties, required, additional, allOf, oneOf, _, _⟩ =>
    match kind with
    | .null => some (.keyword .null)
    | .number => some (.keyword .number)
    | .boolean => some (.keyword .boolean)
    | .string =>
      if (type.getD "").toLower = "string" then stringMeaning enum
      else some (.keyword .string)
    | .array => itemsMeaning items
    | .object =>
      match allOf with
      | .value (_ :: _) => (membersMeaning allOf).map (.compound .intersection)
      | _ =>
        match oneOf with
        | .value (_ :: _) => (membersMeaning oneOf).map (.compound .union)
        | _ =>
          match properties with
          | .value _ => (propertiesMeaning (required.getD []) properties).map .record
          | _ =>
            match additional with
            | .value (.node _) | .value (.flag true) =>
              (additionalMeaning additional).map .index
            | _ => some (looseMeaning ((type.getD "").toLower))
termination_by structural schema => schema

def itemsMeaning : Given SchemaNode → Option TypeExpr
  | .value node => (meaning node).map .array
  | _ => none
termination_by structural items => items

/-- the types of the members of a composition, in order -/
def membersMeaning : Given (List SchemaNode) → Option (List TypeExpr)
  | .value members => memberMeanings members
  | _ => some []
termination_by structural members => members

def memberMeanings : List SchemaNode → Option (List TypeExpr)
  | [] => some []
  | node :: rest => do
    let e ← meaning node
    let es ← memberMeanings rest
    return e :: es
termination_by structural members => members

/-- the fields of a record, in order; those that are not required may be left out -/
def propertiesMeaning (required : List String) :
    Given (List (String × SchemaNode)) → Option (List (Key × Bool × TypeExpr))
  | .value properties => fieldMeanings required properties
  | _ => some []
termination_by structural properties => properties

def fieldMeanings (required : List String) :
    List (String × SchemaNode) → Option (List (Key × Bool × TypeExpr))
  | [] => some []
  | (name, node) :: rest => do
    let e ← meaning node
    let fields ← fieldMeanings required rest
    return (Key.ofName name, !(required.contains name), e) :: fields
termination_by structural properties => properties

def additionalMeaning : Given (Additional SchemaNode) → Option TypeExpr
  | .value (.node node) => meaning node
  | _ => some (.keyword .any)
termination_by structural additional => additional

end

/-! ## compositions -/

theorem isFilled_eq_false {α : Type} {given : Given (List α)}
    (h : ∀ a rest, given = .value (a :: rest) → False) : Schema.isFilled given = false := by
  unfold Schema.isFilled
  split
  · exact (h _ _ rfl).elim
  · rfl

theorem exists_of_isFilled {α : Type} {given : Given (List α)}
    (h : Schema.isFilled given = true) : ∃ a rest, given = .value (a :: rest) := by
  unfold Schema.isFilled at h
  split at h
  · exact ⟨_, _, rfl⟩
  · cases h

theorem isOpen_eq_false {α : Type} {given : Given (Additional α)}
    (hnode : ∀ node, given = .value (.node node) → False)
    (hflag : given = .value (.flag true) → False) : Schema.isOpen given = false := by
  unfold Schema.isOpen
  split
  · rename_i allowed
    cases allowed with
    | false => rfl
    | true => exact (hflag rfl).elim
  · exact (hnode _ rfl).elim
  · rfl

/-- an object denotes what the first composition does that it has -/
theorem bodyMeaning_object (s : Schema) : bodyMeaning .object s =
    if Schema.isFilled s.allOf then (membersMeaning s.allOf).map (.compound .intersection)
    else if Schema.isFilled s.oneOf then (membersMeaning s.oneOf).map (.compound .union)
    else if s.properties.toOption.isSome then
      (propertiesMeaning (s.required.getD []) s.properties).map .record
    else if Schema.isOpen s.additional then (additionalMeaning s.additional).map .index
    else some (looseMeaning s.typeWord) := by
  obtain ⟨type, enum, items, properties, required, additional, allOf, oneOf, nullable, extras⟩ := s
  unfold bodyMeaning
  dsimp only
  split
  · rfl
  · rename_i hallOf
    rw [isFilled_eq_false hallOf, if_neg (by decide)]
    split
    · rfl
    · rename_i honeOf
      rw [isFilled_eq_false honeOf, if_neg (by decide)]
      split
      · rfl
      · rename_i hproperties
        have hnone : properties.toOption.isSome = false := by
          cases properties with
          | value _ => exact (hproperties _ rfl).elim
          | _ => rfl
        rw [hnone, if_neg (by decide)]
        split
        · rfl
        · rfl
        · rename_i hnode hflag
          rw [isOpen_eq_false hnode hflag, if_neg (by decide)]
          rfl

theorem ne_nil_of_membersMeaning {node : SchemaNode} {rest : List SchemaNode}
    {es : List TypeExpr} (h : membersMeaning (.value (node :: rest)) = some es) : es ≠ [] := by
  rw [membersMeaning, memberMeanings] at h
  obtain ⟨e, _, h⟩ := Option.bind_eq_some_iff.mp h
  obtain ⟨es', _, h⟩ := Option.bind_eq_some_iff.mp h
  cases h
  exact List.cons_ne_nil e es'

end ApiBindings
