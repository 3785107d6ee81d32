import ApiBindings.Proofs.Synthesis.Agreement
import ApiBindings.Swagger.Schema

/-!
# Reading schemas of the older version directly

A schema node of the older version can be read without a conversion: its pointers are taken for
the matching ones of the current version, and a file for a string.

* `Swagger.PointerNaming`     which pointers match, and that no other pointer is changed;
* `Swagger.movePointer_naming`, `Swagger.PointerNaming.eq_movePointer`
                              the conversion names pointers in this way, the only one;
* `SchemaNode.direct`         the node as it is read directly.
-/

namespace ApiBindings

namespace Swagger

/-! ## pointers -/

/-- Pointers to definitions, parameters and responses are named like the matching pointers into the
components; every other pointer keeps its name. -/
structure PointerNaming (named : String → String) : Prop where
  definition : ∀ name, named ("#/definitions/" ++ name) = "#/components/schemas/" ++ name
  parameter : ∀ name, named ("#/parameters/" ++ name) = "#/components/parameters/" ++ name
  response : ∀ name, named ("#/responses/" ++ name) = "#/components/responses/" ++ name
  other : ∀ target, (∀ name, target ≠ "#/definitions/" ++ name) →
    (∀ name, target ≠ "#/parameters/" ++ name) → (∀ name, target ≠ "#/responses/" ++ name) →
      named target = target

theorem dropStart?_eq_none {start s : String} (h : ∀ rest, s ≠ start ++ rest) :
    Text.dropStart? start s = none := by
  cases hdrop : Text.dropStart? start s with
  | none => rfl
  | some rest => exact (h rest (Text.dropStart?_eq_some_iff.mp hdrop)).elim

theorem append_ne_append {start start' : String} (h : start.toList[2]? ≠ start'.toList[2]?)
    (hlen : 2 < start.length) (hlen' : 2 < start'.length) (name name' : String) :
    start ++ name ≠ start' ++ name' := by
  intro heq
  have hchars := congrArg (fun s => s.toList[2]?) heq
  simp only [String.toList_append] at hchars
  rw [List.getElem?_append_left hlen, List.getElem?_append_left hlen'] at hchars
  exact h hchars

theorem movePointer_naming : PointerNaming movePointer where
  definition := by
    intro name
    rw [movePointer, movedPlaces, List.findSome?_cons, Text.dropStart?_eq_some_iff.mpr rfl]
    rfl
  parameter := by
    intro name
    have hdefinition : Text.dropStart? "#/definitions/" ("#/parameters/" ++ name) = none :=
      dropStart?_eq_none (append_ne_append (by decide) (by decide) (by decide) name)
    rw [movePointer, movedPlaces, List.findSome?_cons, hdefinition, List.findSome?_cons,
      Text.dropStart?_eq_some_iff.mpr rfl]
    rfl
  response := by
    intro name
    have hdefinition : Text.dropStart? "#/definitions/" ("#/responses/" ++ name) = none :=
      dropStart?_eq_none (append_ne_append (by decide) (by decide) (by decide) name)
    have hparameter : Text.dropStart? "#/parameters/" ("#/responses/" ++ name) = none :=
      dropStart?_eq_none (append_ne_append (by decide) (by decide) (by decide) name)
    rw [movePointer, movedPlaces, List.findSome?_cons, hdefinition, List.findSome?_cons,
      hparameter, List.findSome?_cons, Text.dropStart?_eq_some_iff.mpr rfl]
    rfl
  other := by
    intro target hdefinition hparameter hresponse
    rw [movePointer, movedPlaces, List.findSome?_cons, dropStart?_eq_none hdefinition,
      List.findSome?_cons, dropStart?_eq_none hparameter, List.findSome?_cons,
      dropStart?_eq_none hresponse]
    rfl

theorem PointerNaming.eq_movePointer {named : String → String} (h : PointerNaming named) :
    named = movePointer := by
  funext target
  by_cases hdefinition : ∃ name, target = "#/definitions/" ++ name
  · obtain ⟨name, rfl⟩ := hdefinition
    rw [h.definition, movePointer_naming.definition]
  · by_cases hparameter : ∃ name, target = "#/parameters/" ++ name
    · obtain ⟨name, rfl⟩ := hparameter
      rw [h.parameter, movePointer_naming.parameter]
    · by_cases hresponse : ∃ name, target = "#/responses/" ++ name
      · obtain ⟨name, rfl⟩ := hresponse
        rw [h.response, movePointer_naming.response]
      · rw [h.other, movePointer_naming.other] <;> simp_all

end Swagger

/-! ## nodes -/

def directWord (word : String) : String := if word = "file" then "string" else word

variable (named : String → String)

mutual

/-- The node as it is read directly: every pointer in it goes by its current name, and every file is
a string. -/
def SchemaNode.direct : SchemaNode → SchemaNode
  | .ref target => .ref (named target)
  | .inline schema => .inline (Schema.direct schema)
termination_by structural node => node

def Schema.direct : Schema → Schema
  | ⟨type, enum, items, properties, required, additional, allOf, oneOf, nullable, extras⟩ =>
    ⟨type.map directWord, enum, directItems items, directProperties properties, required,
      directAdditional additional, directMembers allOf, directMembers oneOf, nullable, extras⟩
termination_by structural schema => schema

/-- the items of an array as they are read directly -/
def directItems : Given SchemaNode → Given SchemaNode
  | .absent => .absent
  | .null => .null
  | .value node => .value (SchemaNode.direct node)
termination_by structural items => items

/-- the properties of an object as they are read directly -/
def directProperties : Given (List (String × SchemaNode)) → Given (List (String × SchemaNode))
  | .absent => .absent
  | .null => .null
  | .value properties => .value (directEntries properties)
termination_by structural properties => properties

def directEntries : List (String × SchemaNode) → List (String × SchemaNode)
  | [] => []
  | (name, node) :: rest => (name, SchemaNode.direct node) :: directEntries rest
termination_by structural properties => properties

/-- the schema of the other properties as it is read directly -/
def directAdditional : Given (Additional SchemaNode) → Given (Additional SchemaNode)
  | .absent => .absent
  | .null => .null
  | .value (.flag allowed) => .value (.flag allowed)
  | .value (.node node) => .value (.node (SchemaNode.direct node))
termination_by structural additional => additional

/-- the members of a composition as they are read directly -/
def directMembers : Given (List SchemaNode) → Given (List SchemaNode)
  | .absent => .absent
  | .null => .null
  | .value members => .value (directNodes members)
termination_by structural members => members

def directNodes : List SchemaNode → List SchemaNode
  | [] => []
  | node :: rest => SchemaNode.direct node :: directNodes rest
termination_by structural members => members

end

/-! ## related parts -/

section
variable {named} {R : SchemaNode → SchemaNode → Prop}

theorem directItems_rel {items items' : Given SchemaNode}
    (h : Given.Rel (fun n n' => R (n.direct named) n') items items') :
    Given.Rel R (directItems named items) items' := by
  cases h with
  | absent => exact .absent
  | null => exact .null
  | value hnode => exact .value hnode

theorem directEntries_rel {properties properties' : List (String × SchemaNode)}
    (h : List.Forall₂ (EntryRel fun n n' => R (n.direct named) n') properties properties') :
    List.Forall₂ (EntryRel R) (directEntries named properties) properties' := by
  induction h with
  | nil => exact .nil
  | cons hentry _ ih => exact .cons hentry ih

theorem directProperties_rel {properties properties' : Given (List (String × SchemaNode))}
    (h : Given.Rel (List.Forall₂ (EntryRel fun n n' => R (n.direct named) n'))
      properties properties') :
    Given.Rel (List.Forall₂ (EntryRel R)) (directProperties named properties) properties' := by
  cases h with
  | absent => exact .absent
  | null => exact .null
  | value hproperties => exact .value (directEntries_rel hproperties)

theorem directAdditional_rel {additional additional' : Given (Additional SchemaNode)}
    (h : Given.Rel (Additional.Rel fun n n' => R (n.direct named) n') additional additional') :
    Given.Rel (Additional.Rel R) (directAdditional named additional) additional' := by
  cases h with
  | absent => exact .absent
  | null => exact .null
  | value hother =>
    cases hother with
    | flag allowed => exact .value (.flag allowed)
    | node hnode => exact .value (.node hnode)

theorem directNodes_rel {members members' : List SchemaNode}
    (h : List.Forall₂ (fun n n' => R (n.direct named) n') members members') :
    List.Forall₂ R (directNodes named members) members' := by
  induction h with
  | nil => exact .nil
  | cons hnode _ ih => exact .cons hnode ih

theorem directMembers_rel {members members' : Given (List SchemaNode)}
    (h : Given.Rel (List.Forall₂ fun n n' => R (n.direct named) n') members members') :
    Given.Rel (List.Forall₂ R) (directMembers named members) members' := by
  cases h with
  | absent => exact .absent
  | null => exact .null
  | value hmembers => exact .value (directNodes_rel hmembers)

end

end ApiBindings
