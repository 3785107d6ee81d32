import ApiBindings.Document.Extent
import ApiBindings.Interruption
import ApiBindings.Synthesis.SchemaType

/-!
# Nesting

How deep the type of a schema is nested.  Only the nodes that its type is made of count, and an
alternative counts more than another part.  A schema that is nested beyond a limit can be refused
before its type is made.
-/

namespace ApiBindings

def alternativeSteps : Nat := 6

def partSteps : Nat := 4

mutual

def nodeNesting : SchemaNode → Nat
  | .ref _ => 0
  | .inline schema => bodyNesting schema.kind schema.shape schema
termination_by structural node => node

/-- How deep a schema is nested that is taken for one of the given kind and shape. -/
def bodyNesting (kind : Kind) (shape : Shape) : Schema → Nat
  | ⟨_, _, items, properties, _, additional, allOf, oneOf, _, _⟩ =>
    match kind with
    | .array => itemsNesting items
    | .object =>
      match shape with
      | .allOf => membersNesting partSteps allOf
      | .oneOf => membersNesting alternativeSteps oneOf
      | .properties => propertiesNesting properties
      | .additionalProperties => additionalNesting additional
      | _ => 0
    | _ => 0
termination_by structural schema => schema

def itemsNesting : Given SchemaNode → Nat
  | .value node => partSteps + nodeNesting node
  | _ => 0
termination_by structural items => items

def membersNesting (steps : Nat) : Given (List SchemaNode) → Nat
  | .value members => deepestMember steps members
  | _ => 0
termination_by structural members => members

def deepestMember (steps : Nat) : List SchemaNode → Nat
  | [] => 0
  | node :: rest => max (steps + nodeNesting node) (deepestMember steps rest)
termination_by structural members => members

def propertiesNesting : Given (List (String × SchemaNode)) → Nat
  | .value properties => deepestProperty properties
  | _ => 0
termination_by structural properties => properties

def deepestProperty : List (String × SchemaNode) → Nat
  | [] => 0
  | (_, node) :: rest => max (partSteps + nodeNesting node) (deepestProperty rest)
termination_by structural properties => properties

def additionalNesting : Given (Additional SchemaNode) → Nat
  | .value (.node node) => partSteps + nodeNesting node
  | _ => 0
termination_by structural additional => additional

end

/-- A type, unless the node that it is made of is nested beyond the limit. -/
def withinLimit (nesting : Nat) (type : Except Failure String) : Attempt String :=
  if nesting ≤ nestingLimit then .ofFailure type else .breakDown .tooDeep

def limitedNodeType (node : SchemaNode) (site : Option String) : Attempt String :=
  withinLimit (nodeNesting node) (nodeType node site)

def limitedObjectType (node : SchemaNode) (site : Option String) : Attempt String :=
  let nesting := match node with
    | .ref _ => 0
    | .inline schema => bodyNesting .object schema.shape schema
  withinLimit nesting (objectNodeType node site)

def limitedArrayType (schema : Schema) (site : Option String) : Attempt String :=
  withinLimit (bodyNesting .array schema.shape schema) (schema.arrayType site)

end ApiBindings
