import ApiBindings.OpenApi.Description
import ApiBindings.OpenApi.ReadSchema

/-!
# Reading API descriptions

Readers of all typed objects from document values.  The keys of an object are read in the order of
its declaration, so the issues come in that order too; two objects accept a second spelling of a key
whose usual one is preferred.
-/

namespace ApiBindings

/-- Reads a schema node that stands inside another object. -/
def readNestedNode : Value → Checked SchemaNode := SchemaNode.read nestedAlternatives

def readObject {α : Type} (model : String) (read : Fields → Checked α) : Value → Checked α
  | .map fields => read fields
  | _ => .fail (.notObject model)

def readPointer : Value → Checked String := readObject "Reference" readReference

namespace MediaType

def read : Value → Checked MediaType :=
  readObject "MediaType" fun fields =>
    let schemaKey := spelling fields "schema" "schema_"
    MediaType.mk <$> optionalField readNestedNode fields schemaKey <*>
      readExtras fields [schemaKey]

end MediaType

namespace Parameter

def read : Value → Checked Parameter :=
  readObject "Parameter" fun fields =>
    let locationKey := spelling fields "in" "in_"
    let schemaKey := spelling fields "schema" "schema_"
    Parameter.mk <$> requiredField readText fields "name" <*>
      requiredField readText fields locationKey <*>
      optionalField readText fields "description" <*>
      optionalField readBoolean fields "required" <*>
      optionalField readNestedNode fields schemaKey <*>
      readExtras fields ["name", locationKey, "description", "required", schemaKey]

end Parameter

namespace Payload

/-- Reads a response or a request body; `model` says which. -/
def read (model : String) : Value → Checked Payload :=
  readObject model fun fields =>
    Payload.mk <$> optionalField (readMapping MediaType.read) fields "content" <*>
      readExtras fields ["content"]

def readResponse : Value → Checked (Referable Payload) := readReferable (read "Response")

def readRequestBody : Value → Checked (Referable Payload) := readReferable (read "RequestBody")

end Payload

def readNullable {α : Type} (read : Value → Checked α) : Value → Checked (Option α)
  | .atom .null => .ok none
  | v => (read v).map some

/-- Turns every key of a mapping into its plain text; of two keys with one text the later gives the
value. -/
def withPlainKeys : Value → Value
  | .map fields =>
    .map (Fields.ofEntries (fields.map fun entry => (.string entry.1.plain, entry.2)))
  | v => v

def hasLongKey : Value → Bool
  | .map fields => fields.any fun entry => entry.1.isLong
  | _ => false

namespace Operation

/-- Reads responses.  Status codes may be numbers, unless they are too long to be shown. -/
def readResponses (v : Value) : Checked (List (String × Option (Referable Payload))) :=
  if hasLongKey v then .fail .longKey
  else readMapping (readNullable Payload.readResponse) (withPlainKeys v)

def read : Value → Checked Operation :=
  readObject "Operation" fun fields =>
    Operation.mk <$> optionalField readText fields "operationId" <*>
      optionalField readText fields "summary" <*>
      optionalField readText fields "description" <*>
      optionalField (readList (readReferable Parameter.read)) fields "parameters" <*>
      optionalField Payload.readRequestBody fields "requestBody" <*>
      presentField readResponses fields "responses" <*>
      readExtras fields
        ["operationId", "summary", "description", "parameters", "requestBody", "responses"]

end Operation

namespace PathItem

def readMethod (fields : Fields) (m : Method) : Checked (List (Method × Option Operation)) :=
  match fields.get? m.name with
  | none => .ok []
  | some v => ((readNullable Operation.read v).map fun operation => [(m, operation)]).at_ m.name

def methodOrder (fields : Fields) : List Method :=
  fields.filterMap fun entry =>
    match entry.1 with
    | .string key => Method.ofName? key
    | _ => none

def inOrder (order : List Method) (methods : List (Method × Option Operation)) :
    List (Method × Option Operation) :=
  order.filterMap fun m => methods.find? fun entry => entry.1 == m

/-- Reads a path item.  The operations are checked in the order of declaration and kept in the
order of the document. -/
def read : Value → Checked PathItem :=
  readObject "PathItem" fun fields =>
    PathItem.mk <$> optionalField (readList (readReferable Parameter.read)) fields "parameters" <*>
      .map (fun found => inOrder (methodOrder fields) found.flatten)
        (.all (Method.all.map (readMethod fields))) <*>
      readExtras fields ("parameters" :: Method.all.map Method.name)

end PathItem

namespace Components

def read : Value → Checked Components :=
  readObject "Components" fun fields =>
    Components.mk <$> optionalField (readMapping readNestedNode) fields "schemas" <*>
      optionalField (readMapping Payload.readResponse) fields "responses" <*>
      optionalField (readMapping (readReferable Parameter.read)) fields "parameters" <*>
      optionalField (readMapping Payload.readRequestBody) fields "requestBodies" <*>
      readExtras fields ["schemas", "responses", "parameters", "requestBodies"]

end Components

namespace Info

def read : Value → Checked Info :=
  readObject "Info" fun fields =>
    Info.mk <$> optionalField readText fields "title" <*>
      optionalField readText fields "version" <*>
      readExtras fields ["title", "version"]

end Info

namespace Description

/-- Reads a whole document. -/
def read : Value → Checked Description :=
  readObject "OpenAPI" fun fields =>
    Description.mk <$> requiredField readText fields "openapi" <*>
      optionalField Info.read fields "info" <*>
      optionalField (readList (readMapping Checked.ok)) fields "servers" <*>
      presentField (readMapping PathItem.read) fields "paths" <*>
      optionalField Components.read fields "components" <*>
      readExtras fields ["openapi", "info", "servers", "paths", "components"]

end Description

end ApiBindings
