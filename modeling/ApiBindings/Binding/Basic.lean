import ApiBindings.TypeScript.Expression

/-!
# Bindings

A binding is all that the accessor of one operation is written from: names, types, parameters and
the route.
-/

namespace ApiBindings

/-- A parameter that an accessor takes as a named property. -/
structure BindingParameter where
  name : String
  type : String
  required : Bool
  description : Option String
deriving DecidableEq, Repr

/-- The accessor of one operation. -/
structure Binding where
  operationId : String
  name : String
  method : String
  route : String
  pathParameters : List BindingParameter
  queryParameters : List BindingParameter
  responseType : String
  errorType : String
  bodyType : Option String
  summary : Option String
  description : Option String
  trailing : Option BindingParameter
  responseDeclaration : Option TypeScript.Declaration
  polling : Bool
deriving DecidableEq, Repr

namespace Binding

/-- whether the operation changes something, which all methods but one are taken to do -/
def isMutation (b : Binding) : Bool := b.method != "get"

def parameters (b : Binding) : List BindingParameter := b.pathParameters ++ b.queryParameters

def responseArgument (b : Binding) : String :=
  match b.responseDeclaration with
  | some declaration => declaration.name
  | none => b.responseType

/-- The type of the body; none or an empty one is shown as `void`. -/
def bodyArgument (b : Binding) : String :=
  match b.bodyType with
  | some type => if type = "" then "void" else type
  | none => "void"

def readArguments (b : Binding) : List String := [b.responseArgument, b.errorType]

/-- The type arguments of the accessor; one that changes something also has that of the body. -/
def typeArguments (b : Binding) : List String :=
  b.readArguments ++ (if b.isMutation then [b.bodyArgument] else [])

end Binding

end ApiBindings
