import ApiBindings.Synthesis.PayloadType

/-!
# Declarations of components

Every component becomes a named type.  A schema is declared as an interface only if it is an object
by its own description; a response or a request body whenever its type is a record.
-/

namespace ApiBindings

open TypeScript (Declaration declare pascal)

/-- whether a schema may be declared as an interface: it has no other type than that of objects and
is no composition -/
def Schema.allowsInterface (schema : Schema) : Bool :=
  (schema.typeWord == "" || schema.typeWord == "object") && !Schema.isFilled schema.allOf &&
    !Schema.isFilled schema.oneOf

def allowsInterface : SchemaNode → Bool
  | .ref _ => false
  | .inline schema => schema.allowsInterface

def schemaDeclaration (name : String) (node : SchemaNode) : Except Failure Declaration :=
  (nodeType node (some ("components.schemas." ++ name))).map fun expression =>
    declare (pascal name) expression (allowsInterface node)

def schemaDeclarations : List (String × SchemaNode) → Except Failure (List Declaration)
  | [] => .ok []
  | (name, node) :: rest => do
    let declaration ← schemaDeclaration name node
    let declarations ← schemaDeclarations rest
    return declaration :: declarations

/-- The declaration of a component response or request body; the suffix tells which. -/
def payloadDeclaration (suffix name : String) (payload : Referable Payload) :
    Except Failure Declaration :=
  (payloadUnion [(name, some payload)]).map fun expression =>
    declare (pascal name ++ suffix) expression true

/-- The declarations of component responses or request bodies, in order. -/
def payloadDeclarations (suffix : String) :
    List (String × Referable Payload) → Except Failure (List Declaration)
  | [] => .ok []
  | (name, payload) :: rest => do
    let declaration ← payloadDeclaration suffix name payload
    let declarations ← payloadDeclarations suffix rest
    return declaration :: declarations

end ApiBindings
