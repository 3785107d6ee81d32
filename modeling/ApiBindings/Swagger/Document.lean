import ApiBindings.Swagger.Parameters

/-!
# Converting documents

A whole document of version 2.0 becomes one of version 3.0.3: definitions, parameters and responses
move under the components, bodies out of the parameter lists, and media types into the contents.
-/

namespace ApiBindings.Swagger

def methods : List String := ["get", "put", "post", "delete", "options", "head", "patch"]

def mappingOr (fields : Fields) (key : String) : Except Malformed Fields :=
  (Value.orElse (fields.get? key) (.map [])).entries

/-! ## Responses -/

def convertHeader (entry : Atom × Value) : Conversion (Atom × Value) := do
  let fields ← Conversion.ofExcept entry.2.entries
  return (entry.1, .object [("description", (fields.get? "description").getD (.text "")),
    ("schema", valueSchema fields)])

def responseContent (fields : Fields) (produces : Value) : Conversion (List (String × Value)) :=
  match fields.present? "schema" with
  | none => return []
  | some schema => do
    let content ← contentOf (convertSchema schema) produces
    return [("content", content)]

def responseHeaders (fields : Fields) : Conversion (List (String × Value)) :=
  match fields.present? "headers" with
  | none => return []
  | some headers => do
    let entries ← Conversion.ofExcept headers.entries
    let converted ← Conversion.each convertHeader entries
    return [("headers", .map converted)]

/-- Converts a response. -/
def convertResponse (produces : Value) : Value → Conversion Value
  | .atom .null => return .null
  | response => do
    let isPointer ← Conversion.ofExcept (response.holds "$ref")
    match isPointer, response with
    | true, .map fields =>
      let target ← Conversion.ofExcept ((Fields.get? fields "$ref").getD .null).asText
      return .object [("$ref", .text (movePointer target))]
    | true, _ => Conversion.stop .notIndexable
    | false, _ =>
      let fields ← Conversion.ofExcept response.entries
      let content ← responseContent fields produces
      let headers ← responseHeaders fields
      return .object ([("description", (fields.get? "description").getD (.text ""))] ++ content ++
        headers)

/-! ## Operations -/

/-- What a conversion of operations depends on: the names of the parameters that are bodies, and the
media types of the document. -/
structure Setting where
  bodies : List Atom
  consumes : Option Value
  produces : Option Value

def mediaTypesOr (own general : Option Value) : Option Value :=
  match own.filter Value.truthy with
  | some v => some v
  | none => general

/-- The responses under text keys; extensions are left out. -/
def convertResponses (produces responses : Value) : Conversion Value := do
  let entries ← Conversion.ofExcept (Value.orElse (some responses) (.map [])).entries
  let kept := entries.filter fun entry => !Text.startsWith "x-" entry.1.plain
  let converted ← Conversion.each
    (fun entry => do
      let response ← convertResponse produces entry.2
      return (Atom.string entry.1.plain, response)) kept
  return .map (Fields.ofEntries converted)

/-- The entries that an entry of an operation becomes. -/
def convertOperationEntry (setting : Setting) (operation : Fields) (entry : Atom × Value) :
    Conversion (List (Atom × Value)) :=
  match entry.1 with
  | .string "consumes" => return []
  | .string "produces" => return []
  | .string "schemes" => return []
  | .string "parameters" => do
    let (parameters, body) ← convertParameters setting.bodies
      (mediaTypesOr (operation.get? "consumes") setting.consumes)
      (Value.orElse (some entry.2) (.list []))
    let listed : List (Atom × Value) :=
      if parameters.isEmpty then [] else [(.string "parameters", .list parameters)]
    return listed ++ (body.map fun v => (Atom.string "requestBody", v)).toList
  | .string "responses" => do
    let responses ← convertResponses
      (Value.orElse (mediaTypesOr (operation.get? "produces") setting.produces) defaultMediaTypes)
      entry.2
    return [(.string "responses", responses)]
  | _ => return [entry]

def convertOperation (setting : Setting) (operation : Value) : Conversion Value := do
  let fields ← Conversion.ofExcept operation.entries
  let entries ← Conversion.each (convertOperationEntry setting fields) fields
  let result := Value.map (Fields.ofEntries entries.flatten)
  if fields.has "schemes" then
    Conversion.warn ("Operation level schemes of '" ++ shown (fields.get? "operationId") ++
      "' are ignored")
    return result
  else return result

/-! ## Paths -/

/-- The entries that an entry of a path item becomes. -/
def convertPathEntry (setting : Setting) (entry : Atom × Value) :
    Conversion (List (Atom × Value)) :=
  if isTextIn methods entry.1 then do
    let operation ← convertOperation setting (Value.orElse (some entry.2) (.map []))
    return [(entry.1, operation)]
  else if entry.1 = .string "parameters" then do
    let (parameters, _) ← convertParameters setting.bodies none
      (Value.orElse (some entry.2) (.list []))
    return if parameters.isEmpty then [] else [(entry.1, .list parameters)]
  else if entry.1 = .string "$ref" then do
    let target ← Conversion.ofExcept entry.2.asText
    return [(entry.1, .text (movePointer target))]
  else return [entry]

def convertPathItem (setting : Setting) (item : Value) : Conversion Value := do
  let fields ← Conversion.ofExcept item.entries
  let entries ← Conversion.each (convertPathEntry setting) fields
  return .map (Fields.ofEntries entries.flatten)

def convertPath (setting : Setting) (entry : Atom × Value) : Conversion (List (Atom × Value)) := do
  let path ← Conversion.ofExcept (Value.atom entry.1).asText
  if Text.startsWith "x-" path then return []
  else
    let item ← convertPathItem setting (Value.orElse (some entry.2) (.map []))
    return [(entry.1, item)]

def convertPaths (setting : Setting) (document : Fields) : Conversion Value := do
  let entries ← Conversion.ofExcept (mappingOr document "paths")
  let converted ← Conversion.each (convertPath setting) entries
  return .map converted.flatten

/-! ## Components -/

def bodyNames (document : Fields) : List Atom :=
  match mappingOr document "parameters" with
  | .error _ => []
  | .ok entries =>
    entries.filterMap fun entry =>
      match entry.2 with
      | .map fields => if hasText fields "in" "body" then some entry.1 else none
      | _ => none

/-- Converts a component parameter; the first part of the result is the kind of component that it
becomes. -/
def convertComponentParameter (consumes : Option Value) (entry : Atom × Value) :
    Conversion (String × Atom × Value) := do
  let fields ← Conversion.ofExcept entry.2.entries
  if hasText fields "in" "body" then
    let body ← convertBody fields consumes
    return ("requestBodies", entry.1, body)
  else
    let parameter ← convertPlain fields
    return ("parameters", entry.1, parameter)

def ofKind (kind : String) (parameters : List (String × Atom × Value)) : List (Atom × Value) :=
  (parameters.filter fun p => p.1 == kind).map (·.2)

/-- The kinds that occur among converted parameters, in the order of their first occurrence, each
with its parameters. -/
def groupByKind (parameters : List (String × Atom × Value)) : List (String × Value) :=
  ((parameters.map (·.1)).eraseDups).map fun kind => (kind, .map (ofKind kind parameters))

def convertDefinitions (document : Fields) : Conversion (List (String × Value)) :=
  match document.present? "definitions" with
  | none => return []
  | some definitions => do
    let entries ← Conversion.ofExcept definitions.entries
    return [("schemas", .map (entries.map fun entry => (entry.1, convertSchema entry.2)))]

def convertComponentResponses (document : Fields) : Conversion (List (String × Value)) :=
  match document.present? "responses" with
  | none => return []
  | some responses => do
    let entries ← Conversion.ofExcept responses.entries
    let produces := Value.orElse (document.get? "produces") defaultMediaTypes
    let converted ← Conversion.each
      (fun entry => do
        let response ← convertResponse produces entry.2
        return (entry.1, response)) entries
    return [("responses", .map converted)]

def convertComponents (document : Fields) : Conversion (List (String × Value)) := do
  let schemas ← convertDefinitions document
  let entries ← Conversion.ofExcept (mappingOr document "parameters")
  let parameters ← Conversion.each (convertComponentParameter (document.get? "consumes")) entries
  let responses ← convertComponentResponses document
  return schemas ++ groupByKind parameters ++ responses

/-! ## Servers -/

def server (url : Value) : Value := .object [("url", url)]

/-- Converts host, base path and schemes. -/
def convertServers (document : Fields) : Conversion Value :=
  let basePath := document.present? "basePath"
  match document.present? "host" with
  | none =>
    match basePath with
    | none => do
      Conversion.warn "No host or basePath specified, defaulting to server URL '/'"
      return .list [server (.text "/")]
    | some path => return .list [server path]
  | some host => do
    let schemes ← Conversion.ofExcept
      (Value.orElse (document.get? "schemes") (.list [.text "http"])).iterated
    let path := (basePath.map Value.plain).getD ""
    return .list (schemes.map fun scheme =>
      server (.text (scheme.plain ++ "://" ++ host.plain ++ path)))

/-! ## Documents -/

def keptKeys : List String := ["tags", "security", "externalDocs"]

/-- Converts a document.  The names `known` count as names of bodies beside those of its own. -/
def convertKnowing (known : List Atom) (document : Value) : Conversion Value := do
  let fields ← Conversion.ofExcept document.entries
  let servers ← convertServers fields
  let components ← convertComponents fields
  -- the names are complete before the first list of parameters is converted
  let paths ← convertPaths
    ⟨known ++ bodyNames fields, fields.get? "consumes", fields.get? "produces"⟩ fields
  return .object (
    [("openapi", .text "3.0.3"), ("info", Value.orElse (fields.get? "info") (.map [])),
      ("servers", servers), ("paths", paths)] ++
    (if components.isEmpty then [] else [("components", .object components)]) ++
    keptKeys.filterMap fun key => (fields.get? key).map fun v => (key, v))

def convert (document : Value) : Conversion Value := convertKnowing [] document

/-! ## Repeated conversion -/

def bodiesOf : Value → List Atom
  | .map fields => bodyNames fields
  | _ => []

/-- What a conversion leaves for the ones after it. -/
structure Pass where
  warnings : List String
  bodies : List Atom

/-- A document under conversion, with what every conversion so far has left. -/
structure Upgrader where
  document : Value
  passes : List Pass

namespace Upgrader

def warnings (u : Upgrader) : List String := u.passes.flatMap Pass.warnings

/-- The names that any conversion so far has found to be those of bodies. -/
def bodies (u : Upgrader) : List Atom := u.passes.flatMap Pass.bodies

def run (u : Upgrader) : Except Malformed (Value × Upgrader) :=
  (convertKnowing u.bodies u.document).map fun result =>
    (result.value, { u with passes := u.passes ++ [⟨result.warnings, bodiesOf u.document⟩] })

end Upgrader

end ApiBindings.Swagger
