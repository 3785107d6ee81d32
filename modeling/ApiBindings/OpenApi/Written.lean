import ApiBindings.OpenApi.Description

/-!
# Typed objects as document values

Every typed object can be written back as a value.  Only the keys that were given are written: first
those that are read, in the order of declaration and under their usual spelling, then the others.
-/

namespace ApiBindings

def Given.entry {α : Type} (key : String) (write : α → Value) : Given α → List (String × Value)
  | .absent => []
  | .null => [(key, .null)]
  | .value a => [(key, write a)]

def presentEntry {α : Type} (key : String) (write : α → Value) : Option α → List (String × Value)
  | none => []
  | some a => [(key, write a)]

def writeList {α : Type} (write : α → Value) (items : List α) : Value := .list (items.map write)

def writeMapping {α : Type} (write : α → Value) (entries : List (String × α)) : Value :=
  .object (entries.map fun entry => (entry.1, write entry.2))

def writeReference (target : String) : Value := .object [("$ref", .text target)]

def Referable.written {α : Type} (write : α → Value) : Referable α → Value
  | .ref target => writeReference target
  | .inline object => write object

mutual

def SchemaNode.written : SchemaNode → Value
  | .ref target => writeReference target
  | .inline schema => schema.written
termination_by structural node => node

def Schema.written : Schema → Value
  | ⟨type, enum, items, properties, required, additional, allOf, oneOf, nullable, extras⟩ =>
    .object (type.entry "type" .text ++ enum.entry "enum" .list ++ writtenNode "items" items ++
      writtenProperties properties ++ required.entry "required" (writeList .text) ++
      writtenAdditional additional ++ writtenMembers "allOf" allOf ++
      writtenMembers "oneOf" oneOf ++ nullable.entry "nullable" .bool ++ extras)
termination_by structural schema => schema

def writtenNode (key : String) : Given SchemaNode → List (String × Value)
  | .absent => []
  | .null => [(key, .null)]
  | .value node => [(key, SchemaNode.written node)]
termination_by structural given => given

def writtenProperties : Given (List (String × SchemaNode)) → List (String × Value)
  | .absent => []
  | .null => [("properties", .null)]
  | .value entries => [("properties", .object (writtenEntries entries))]
termination_by structural given => given

def writtenAdditional : Given (Additional SchemaNode) → List (String × Value)
  | .absent => []
  | .null => [("additionalProperties", .null)]
  | .value (.flag allowed) => [("additionalProperties", .bool allowed)]
  | .value (.node node) => [("additionalProperties", SchemaNode.written node)]
termination_by structural given => given

def writtenMembers (key : String) : Given (List SchemaNode) → List (String × Value)
  | .absent => []
  | .null => [(key, .null)]
  | .value nodes => [(key, .list (writtenNodes nodes))]
termination_by structural given => given

def writtenNodes : List SchemaNode → List Value
  | [] => []
  | node :: rest => SchemaNode.written node :: writtenNodes rest
termination_by structural nodes => nodes

def writtenEntries : List (String × SchemaNode) → List (String × Value)
  | [] => []
  | (name, node) :: rest => (name, SchemaNode.written node) :: writtenEntries rest
termination_by structural entries => entries

end

namespace MediaType

def written (m : MediaType) : Value :=
  .object (m.schema.entry "schema" SchemaNode.written ++ m.extras)

end MediaType

namespace Parameter

def written (p : Parameter) : Value :=
  .object ([("name", .text p.name), ("in", .text p.location)] ++
    p.description.entry "description" .text ++ p.required.entry "required" .bool ++
    p.schema.entry "schema" SchemaNode.written ++ p.extras)

end Parameter

namespace Payload

def written (p : Payload) : Value :=
  .object (p.content.entry "content" (writeMapping MediaType.written) ++ p.extras)

end Payload

def writeNullable {α : Type} (write : α → Value) : Option α → Value
  | none => .null
  | some a => write a

namespace Operation

def written (o : Operation) : Value :=
  .object (o.operationId.entry "operationId" .text ++ o.summary.entry "summary" .text ++
    o.description.entry "description" .text ++
    o.parameters.entry "parameters" (writeList (Referable.written Parameter.written)) ++
    o.requestBody.entry "requestBody" (Referable.written Payload.written) ++
    presentEntry "responses" (writeMapping (writeNullable (Referable.written Payload.written)))
      o.responses ++
    o.extras)

end Operation

namespace PathItem

/-- A path item as a value; the methods are written in the order of declaration. -/
def written (item : PathItem) : Value :=
  .object (item.parameters.entry "parameters" (writeList (Referable.written Parameter.written)) ++
    item.inDeclaredOrder.methods.map (fun entry =>
      (entry.1.name, writeNullable Operation.written entry.2)) ++
    item.extras)

end PathItem

namespace Components

def written (c : Components) : Value :=
  .object (c.schemas.entry "schemas" (writeMapping SchemaNode.written) ++
    c.responses.entry "responses" (writeMapping (Referable.written Payload.written)) ++
    c.parameters.entry "parameters" (writeMapping (Referable.written Parameter.written)) ++
    c.requestBodies.entry "requestBodies" (writeMapping (Referable.written Payload.written)) ++
    c.extras)

end Components

namespace Info

def written (i : Info) : Value :=
  .object (i.title.entry "title" .text ++ i.version.entry "version" .text ++ i.extras)

end Info

namespace Description

def written (d : Description) : Value :=
  .object ([("openapi", .text d.openapi)] ++ d.info.entry "info" Info.written ++
    d.servers.entry "servers" (writeList .object) ++
    presentEntry "paths" (writeMapping PathItem.written) d.paths ++
    d.components.entry "components" Components.written ++ d.extras)

end Description

end ApiBindings
