import ApiBindings.Binding.Basic
import ApiBindings.Binding.Parameters
import ApiBindings.Route
import ApiBindings.Synthesis.PayloadType

/-!
# Building bindings

The binding of an operation needs its types, its parameters and its route.  Each part can fail; the
first failure, in the order of the steps below, is the one that is reported.  The operations of a
document are built in order, and an id may occur only once.
-/

namespace ApiBindings

/-- An operation with its place in a document. -/
structure Endpoint where
  path : String
  method : Method
  operation : Operation
  shared : Given (List (Referable Parameter))

namespace Endpoint

/-- The route template and the name of the elided placeholder.  Only a deletion elides one: the last
segment of its path, whose value is passed when the accessor is called. -/
def split (e : Endpoint) : String × Option String :=
  let template := Route.template e.path
  match e.method with
  | .delete =>
    match Route.splitTrailing? template.toList with
    | some (before, name) => (String.ofList before, some (String.ofList name))
    | none => (template, none)
  | _ => (template, none)

def placeholders (e : Endpoint) : List String :=
  ((Route.placeholders e.path).filter fun name => e.split.2 != some name).eraseDups

end Endpoint

/-! ## Parameters -/

def parameterType (p : Parameter) : Except Failure String :=
  match p.schema with
  | .value node => nodeType node (some ("parameters." ++ p.name))
  | _ => .ok "any"

def bindingParameter (p : Parameter) : Except Failure BindingParameter :=
  (parameterType p).map fun type =>
    ⟨p.name, type, p.required.getD false, p.description.toOption⟩

def bindingParameters : List Parameter → Except Failure (List BindingParameter)
  | [] => .ok []
  | p :: rest => do
    let first ← bindingParameter p
    let others ← bindingParameters rest
    return first :: others

/-- The properties for the placeholders of a route, each of which has to be declared. -/
def placeholderParameters (e : Endpoint) (id : String) (sorted : SortedParameters) :
    List String → Except Failure (List BindingParameter)
  | [] => .ok []
  | name :: rest =>
    match sorted.findPath? name with
    | none => .error (.undeclaredPathParameter name id e.method.name e.path)
    | some p => do
      let first ← bindingParameter p
      let others ← placeholderParameters e id sorted rest
      return first :: others

/-- The property for the elided placeholder, which need not be declared. -/
def trailingParameter (sorted : SortedParameters) :
    Option String → Except Failure (Option BindingParameter)
  | none => .ok none
  | some name =>
    match sorted.findPath? name with
    | none => .ok (some ⟨name, "any", true, none⟩)
    | some p => (bindingParameter p).map some

/-! ## Responses and bodies -/

def isSuccess (status : String) : Bool :=
  match status.toList with
  | c :: _ => c == '2' || c == '3'
  | [] => false

def payloadUnionOr (fallback : String) (entries : List (String × Option (Referable Payload))) :
    Except Failure String :=
  (payloadUnion entries).map fun type => if type = "" then fallback else type

/-- The type of the request body.  An operation that reads has none; without a declared body the
elided placeholder is the body. -/
def requestType (e : Endpoint) (trailing : Option BindingParameter) :
    Except Failure (Option String) :=
  match e.method, trailing, e.operation.requestBody.toOption with
  | .get, _, _ => .ok none
  | _, some parameter, none => .ok (some parameter.type)
  | _, _, body => (payloadUnion [("body", body)]).map some

/-! ## Bindings -/

/-- The name of the header that asks for long polling, in lower case. -/
def pollingHeader : String := "prefer"

def operationId (e : Endpoint) (seen : List String) : Except Failure String :=
  match givenText? e.operation.operationId.toOption with
  | none => .error (.missingOperationId e.method.name e.path)
  | some id =>
    if id ∈ seen then .error (.duplicateOperationId id e.method.name e.path) else .ok id

/-- The binding of an operation, given the ids of those before it. -/
def Description.bind (d : Description) (e : Endpoint) (seen : List String) :
    Except Failure Binding := do
  let id ← operationId e seen
  let sorted ← d.sortParameters e.shared e.operation.parameters
  let pathParameters ← placeholderParameters e id sorted e.placeholders
  let queryParameters ← bindingParameters sorted.query
  let trailing ← trailingParameter sorted e.split.2
  let responses := e.operation.responses.getD []
  let responseType ← payloadUnionOr "void" (responses.filter fun entry => isSuccess entry.1)
  let errorType ← payloadUnionOr "unknown" (responses.filter fun entry => !isSuccess entry.1)
  let bodyType ← requestType e trailing
  let name := TypeScript.pascal id
  return {
    operationId := id
    name := name
    method := e.method.name
    route := e.split.1
    pathParameters := pathParameters
    queryParameters := queryParameters
    responseType := responseType
    errorType := errorType
    bodyType := bodyType
    summary := e.operation.summary.toOption
    description := e.operation.description.toOption
    trailing := trailing
    responseDeclaration :=
      if responseType.toList.contains '{' then
        some (TypeScript.declare (name ++ "Response") responseType true)
      else none
    polling := sorted.header.any fun p => p.name.toLower == pollingHeader }

namespace Description

/-- All operations of a document, in its order. -/
def endpoints (d : Description) : List Endpoint :=
  (d.paths.getD []).flatMap fun entry =>
    entry.2.operations.map fun operation =>
      ⟨entry.1, operation.1, operation.2, entry.2.parameters⟩

def supportedEndpoints (d : Description) : List Endpoint :=
  d.endpoints.filter fun e => e.method.isSupported

/-- The bindings of operations, in order; every id is kept from then on. -/
def bindingsFrom (d : Description) (seen : List String) :
    List Endpoint → Except Failure (List Binding)
  | [] => .ok []
  | e :: rest => do
    let first ← d.bind e seen
    let others ← d.bindingsFrom (first.operationId :: seen) rest
    return first :: others

def bindings (d : Description) : Except Failure (List Binding) :=
  d.bindingsFrom [] d.supportedEndpoints

end Description

end ApiBindings
