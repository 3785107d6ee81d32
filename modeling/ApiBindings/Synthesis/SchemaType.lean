import ApiBindings.OpenApi.Schema
import ApiBindings.Synthesis.Reference
import ApiBindings.TypeScript.Expression

/-!
# The type of a schema

Every schema node denotes a type expression.  A pointer denotes the name of its component and is not
followed, so the recursion is on the schema itself and ends for every document.  The site of a node
tells where it stands; it is shown when no type can be given.
-/

namespace ApiBindings

def childSite (site : Option String) (segment : String) : Option String :=
  match givenText? site with
  | some path => some (path ++ "." ++ segment)
  | none => some segment

def memberSite (site : Option String) (composition : String) (index : Nat) : Option String :=
  childSite site (composition ++ "[" ++ toString index ++ "]")

/-- The union of string literals; every value has to be a text. -/
def enumType (values : List Value) (site : Option String) : Except Failure String :=
  let literals := values.filterMap fun v =>
    match v with
    | .atom (.string s) => some (Text.quoted s)
    | _ => none
  if literals.length = values.length then .ok (Text.join " | " literals)
  else .error (.mixedEnum values site)

def stringType (plain : Bool) (enum : Given (List Value)) (site : Option String) :
    Except Failure String :=
  match plain, enum with
  | true, .value (v :: rest) => enumType (v :: rest) site
  | _, _ => .ok "string"

def arrayOf (item : String) : String :=
  if TypeScript.isCompound item then "(" ++ item ++ ")[]" else item ++ "[]"

def intersectionMember (member : String) : String :=
  if TypeScript.isUnion member then "(" ++ member ++ ")" else member

def recordField (name : String) (required : Bool) (type : String) : String :=
  TypeScript.objectKey name ++ (if required then "" else "?") ++ ": " ++ type

def recordOf (fields : List String) : String := "\x7b" ++ Text.join "; " fields ++ "\x7d"

def indexOf (valueType : String) : String := "\x7b[key: string]: " ++ valueType ++ "\x7d"

def withNull (nullable : Given Bool) (type : String) : String :=
  if nullable.getD false && type != "null" then type ++ " | null" else type

mutual

def nodeType : SchemaNode → Option String → Except Failure String
  | .ref target, _ => referenceType target
  | .inline schema, site =>
    (bodyType schema.kind schema.shape schema site).map (withNull schema.nullable)
termination_by structural node => node

/-- The type of a schema that is taken for one of the given kind and shape, without the null that
may be added to it. -/
def bodyType (kind : Kind) (shape : Shape) : Schema → Option String → Except Failure String
  | ⟨type, enum, items, properties, required, additional, allOf, oneOf, _, _⟩, site =>
    match kind with
    | .null => .ok "null"
    | .number => .ok "number"
    | .boolean => .ok "boolean"
    | .string => stringType ((type.getD "").toLower == "string") enum site
    | .array => itemsType items site
    | .object =>
      match shape with
      | .allOf =>
        (membersType "allOf" allOf site).map fun members =>
          Text.join " & " (members.map intersectionMember)
      | .oneOf => (membersType "oneOf" oneOf site).map (Text.join " | ")
      | .properties => (propertiesType (required.getD []) properties site).map recordOf
      | .additionalProperties => (additionalType additional site).map indexOf
      | .empty => .ok "\x7b\x7d"
      | .unknown => .ok "any"
termination_by structural schema => schema

def itemsType : Given SchemaNode → Option String → Except Failure String
  | .value node, site => (nodeType node (childSite site "items")).map arrayOf
  | _, site => .error (.missingItems site)
termination_by structural items => items

def membersType (composition : String) :
    Given (List SchemaNode) → Option String → Except Failure (List String)
  | .value members, site => memberTypes composition 0 members site
  | _, _ => .ok []
termination_by structural members => members

def memberTypes (composition : String) (index : Nat) :
    List SchemaNode → Option String → Except Failure (List String)
  | [], _ => .ok []
  | node :: rest, site => do
    let type ← nodeType node (memberSite site composition index)
    let types ← memberTypes composition (index + 1) rest site
    return type :: types
termination_by structural members => members

def propertiesType (required : List String) :
    Given (List (String × SchemaNode)) → Option String → Except Failure (List String)
  | .value properties, site => fieldTypes required properties site
  | _, _ => .ok []
termination_by structural properties => properties

def fieldTypes (required : List String) :
    List (String × SchemaNode) → Option String → Except Failure (List String)
  | [], _ => .ok []
  | (name, node) :: rest, site => do
    let type ← nodeType node (childSite site ("properties." ++ name))
    let fields ← fieldTypes required rest site
    return recordField name (required.contains name) type :: fields
termination_by structural properties => properties

def additionalType :
    Given (Additional SchemaNode) → Option String → Except Failure String
  | .value (.node node), site => nodeType node (childSite site "additionalProperties")
  | _, _ => .ok "any"
termination_by structural additional => additional

end

/-! ## Single kinds -/

namespace Schema

def arrayType (schema : Schema) (site : Option String) : Except Failure String :=
  bodyType .array schema.shape schema site

def objectType (schema : Schema) (site : Option String) : Except Failure String :=
  bodyType .object schema.shape schema site

end Schema

def objectNodeType : SchemaNode → Option String → Except Failure String
  | .ref target, _ => referenceType target
  | .inline schema, site => schema.objectType site

end ApiBindings
