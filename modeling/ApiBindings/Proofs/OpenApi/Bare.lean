import ApiBindings.OpenApi.Description
import ApiBindings.Proofs.OpenApi.Carries

/-!
# Descriptions without unknown keys

`bare` drops the keys that are not modelled, at every depth.  What two objects have in common is
then said by an equation: they are alike if they are equal without those keys.

* `SchemaNode.bare`, `Schema.bare`      on schemas, by recursion on the schema;
* `Description.bare`                    on a whole description, part by part;
* `Alike`                               equal once a function was applied, with its lemmas for the
                                        containers.
-/

namespace ApiBindings

/-! ## containers -/

/-- changes the object, and leaves a pointer -/
def Referable.map {α β : Type} (f : α → β) : Referable α → Referable β
  | .ref target => .ref target
  | .inline object => .inline (f object)

/-- changes the schema, and leaves a flag -/
def Additional.map {α β : Type} (f : α → β) : Additional α → Additional β
  | .flag allowed => .flag allowed
  | .node schema => .node (f schema)

def mapValues {α β : Type} (f : α → β) (entries : List (String × α)) : List (String × β) :=
  entries.map fun entry => (entry.1, f entry.2)

/-! ## schemas -/

mutual

/-- the node without unknown keys -/
def SchemaNode.bare : SchemaNode → SchemaNode
  | .ref target => .ref target
  | .inline schema => .inline (Schema.bare schema)
termination_by structural node => node

/-- the schema without unknown keys -/
def Schema.bare : Schema → Schema
  | ⟨type, enum, items, properties, required, additional, allOf, oneOf, nullable, _⟩ =>
    ⟨type, enum, bareItems items, bareProperties properties, required, bareAdditional additional,
      bareMembers allOf, bareMembers oneOf, nullable, []⟩
termination_by structural schema => schema

def bareItems : Given SchemaNode → Given SchemaNode
  | .absent => .absent
  | .null => .null
  | .value node => .value (SchemaNode.bare node)
termination_by structural items => items

def bareProperties : Given (List (String × SchemaNode)) → Given (List (String × SchemaNode))
  | .absent => .absent
  | .null => .null
  | .value properties => .value (bareEntries properties)
termination_by structural properties => properties

def bareEntries : List (String × SchemaNode) → List (String × SchemaNode)
  | [] => []
  | (name, node) :: rest => (name, SchemaNode.bare node) :: bareEntries rest
termination_by structural properties => properties

def bareAdditional : Given (Additional SchemaNode) → Given (Additional SchemaNode)
  | .absent => .absent
  | .null => .null
  | .value (.flag allowed) => .value (.flag allowed)
  | .value (.node node) => .value (.node (SchemaNode.bare node))
termination_by structural additional => additional

def bareMembers : Given (List SchemaNode) → Given (List SchemaNode)
  | .absent => .absent
  | .null => .null
  | .value members => .value (bareList members)
termination_by structural members => members

def bareList : List SchemaNode → List SchemaNode
  | [] => []
  | node :: rest => SchemaNode.bare node :: bareList rest
termination_by structural members => members

end

theorem bareEntries_eq (properties : List (String × SchemaNode)) :
    bareEntries properties = mapValues SchemaNode.bare properties := by
  induction properties with
  | nil => rfl
  | cons entry rest ih =>
    rw [bareEntries, ih]
    rfl

theorem bareList_eq (members : List SchemaNode) :
    bareList members = members.map SchemaNode.bare := by
  induction members with
  | nil => rfl
  | cons node rest ih => rw [bareList, ih, List.map_cons]

/-! ## the objects above -/

def MediaType.bare (media : MediaType) : MediaType where
  schema := media.schema.map SchemaNode.bare
  extras := []

def Parameter.bare (parameter : Parameter) : Parameter :=
  { parameter with
    schema := parameter.schema.map SchemaNode.bare
    extras := [] }

def Payload.bare (payload : Payload) : Payload where
  content := payload.content.map (mapValues MediaType.bare)
  extras := []

def Operation.bare (operation : Operation) : Operation :=
  { operation with
    parameters := operation.parameters.map (List.map (Referable.map Parameter.bare))
    requestBody := operation.requestBody.map (Referable.map Payload.bare)
    responses := operation.responses.map (mapValues (Option.map (Referable.map Payload.bare)))
    extras := [] }

def PathItem.bare (item : PathItem) : PathItem where
  parameters := item.parameters.map (List.map (Referable.map Parameter.bare))
  methods := item.methods.map fun entry => (entry.1, entry.2.map Operation.bare)
  extras := []

def Components.bare (components : Components) : Components where
  schemas := components.schemas.map (mapValues SchemaNode.bare)
  responses := components.responses.map (mapValues (Referable.map Payload.bare))
  parameters := components.parameters.map (mapValues (Referable.map Parameter.bare))
  requestBodies := components.requestBodies.map (mapValues (Referable.map Payload.bare))
  extras := []

def Info.bare (info : Info) : Info := { info with extras := [] }

/-- the description without unknown keys -/
def Description.bare (d : Description) : Description :=
  { d with
    info := d.info.map Info.bare
    paths := d.paths.map (mapValues PathItem.bare)
    components := d.components.map Components.bare
    extras := [] }

/-! ## alike -/

section
variable {α β : Type}

/-- equal once `f` was applied -/
def Alike (f : α → β) (a b : α) : Prop := f b = f a

variable {f : α → β}

theorem Given.Rel.alike {x y : Given α} (h : Given.Rel (Alike f) x y) :
    Alike (Given.map f) x y := by
  cases h with
  | absent => rfl
  | null => rfl
  | value hab => exact congrArg Given.value hab

theorem Referable.Rel.alike {x y : Referable α} (h : Referable.Rel (Alike f) x y) :
    Alike (Referable.map f) x y := by
  cases h with
  | ref target => rfl
  | inline hab => exact congrArg Referable.inline hab

theorem Alike.option {x y : Option α} (h : Option.Rel (Alike f) x y) :
    Alike (Option.map f) x y := by
  cases h with
  | none => rfl
  | some hab => exact congrArg some hab

theorem Alike.list {xs ys : List α} (h : List.Forall₂ (Alike f) xs ys) :
    Alike (List.map f) xs ys :=
  map_eq_of_forall₂ h

theorem Alike.values {xs ys : List (String × α)} (h : List.Forall₂ (EntryRel (Alike f)) xs ys) :
    Alike (mapValues f) xs ys :=
  map_eq_of_forall₂ (h.imp fun _ _ hentry => Prod.ext hentry.1.symm hentry.2)

end

end ApiBindings
