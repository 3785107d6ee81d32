import ApiBindings.OpenApi.Description
import ApiBindings.Synthesis.SchemaType
import ApiBindings.Text.Blank

/-!
# The type of responses and request bodies

A payload contributes the type of its JSON schema or, without one, of its binary schema.  Several
payloads together have the union of their types, each type once and in the order of its first
occurrence.
-/

namespace ApiBindings

def isJsonMedia (contentType : String) : Bool :=
  (Text.trim (Text.beforeChar ';' contentType.toList)).map Char.toLower == "application/json".toList

def binaryMedia : String := "application/octet-stream"

/-- The media type that gives the type: the first JSON one, else the binary one. -/
def selectMedia? (content : List (String × MediaType)) : Option MediaType :=
  match content.find? fun entry => isJsonMedia entry.1 with
  | some entry => some entry.2
  | none => content.lookup binaryMedia

def Payload.node? (payload : Payload) : Option SchemaNode :=
  (selectMedia? (payload.content.getD [])).bind fun media => media.schema.toOption

/-- The type of a payload; the label tells where it stands. -/
def payloadType (label : String) : Option (Referable Payload) → Except Failure String
  | none => .ok "void"
  | some (.ref target) => referenceType target
  | some (.inline payload) =>
    match payload.node? with
    | some node => nodeType node (some label)
    | none => .ok "void"

def payloadTypes : List (String × Option (Referable Payload)) → Except Failure (List String)
  | [] => .ok []
  | (label, payload) :: rest => do
    let type ← payloadType label payload
    let types ← payloadTypes rest
    return type :: types

def unionOf (types : List String) : String := Text.join " | " types.eraseDups

def payloadUnion (entries : List (String × Option (Referable Payload))) : Except Failure String :=
  (payloadTypes entries).map unionOf

end ApiBindings
