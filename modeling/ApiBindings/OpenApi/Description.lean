import ApiBindings.OpenApi.Schema

/-!
# API descriptions

The parts of an OpenAPI 3.0 document that bindings are made from.  Every object keeps the keys that
are not modelled as `extras`, so that none of them ever makes a document unusable.
-/

namespace ApiBindings

structure MediaType where
  schema : Given SchemaNode
  extras : List (String × Value)

/-- A parameter of an operation; `location` says where it is sent. -/
structure Parameter where
  name : String
  location : String
  description : Given String
  required : Given Bool
  schema : Given SchemaNode
  extras : List (String × Value)

/-- What a response or a request body holds, by media type. -/
structure Payload where
  content : Given (List (String × MediaType))
  extras : List (String × Value)

/-- The methods of the protocol, in the order in which a path item declares them. -/
inductive Method where
  | get
  | put
  | post
  | delete
  | options
  | head
  | patch
  | trace
deriving DecidableEq, Repr

/-- One operation of a path. -/
structure Operation where
  operationId : Given String
  summary : Given String
  description : Given String
  parameters : Given (List (Referable Parameter))
  requestBody : Given (Referable Payload)
  responses : Option (List (String × Option (Referable Payload)))
  extras : List (String × Value)

/-- The operations of one path.  `methods` lists the methods in document order, one given as null
without an operation. -/
structure PathItem where
  parameters : Given (List (Referable Parameter))
  methods : List (Method × Option Operation)
  extras : List (String × Value)

/-- The objects that can be referred to. -/
structure Components where
  schemas : Given (List (String × SchemaNode))
  responses : Given (List (String × Referable Payload))
  parameters : Given (List (String × Referable Parameter))
  requestBodies : Given (List (String × Referable Payload))
  extras : List (String × Value)

/-- Title and version of the API. -/
structure Info where
  title : Given String
  version : Given String
  extras : List (String × Value)

/-- A whole document. -/
structure Description where
  openapi : String
  info : Given Info
  servers : Given (List (List (String × Value)))
  paths : Option (List (String × PathItem))
  components : Given Components
  extras : List (String × Value)

namespace Method

def all : List Method := [get, put, post, delete, options, head, patch, trace]

/-- The key of a method in a path item. -/
def name : Method → String
  | get => "get"
  | put => "put"
  | post => "post"
  | delete => "delete"
  | options => "options"
  | head => "head"
  | patch => "patch"
  | trace => "trace"

def ofName? (key : String) : Option Method := all.find? fun m => m.name == key

/-- whether accessors are generated for a method -/
def isSupported : Method → Bool
  | get => true
  | post => true
  | put => true
  | patch => true
  | delete => true
  | _ => false

end Method

namespace PathItem

def operations (item : PathItem) : List (Method × Operation) :=
  item.methods.filterMap fun entry => entry.2.map fun operation => (entry.1, operation)

def inDeclaredOrder (item : PathItem) : PathItem :=
  { item with
    methods := Method.all.filterMap fun m => item.methods.find? fun entry => entry.1 == m }

end PathItem

namespace Description

def parameters (d : Description) : List (String × Referable Parameter) :=
  match d.components with
  | .value components => components.parameters.getD []
  | _ => []

end Description

end ApiBindings
