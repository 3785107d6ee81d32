import ApiBindings.Swagger.Conversion
import ApiBindings.Swagger.Schema

/-!
# Converting parameters

The older version describes the value of a parameter by keys of the parameter itself and passes the
body of a request as a parameter, or as several in a form.  The value gets a schema of its own, and
the body moves out of the list.
-/

namespace ApiBindings.Swagger

def valueKeys : List String :=
  ["type", "format", "items", "default", "maximum", "exclusiveMaximum", "minimum",
    "exclusiveMinimum", "maxLength", "minLength", "pattern", "maxItems", "minItems", "uniqueItems",
    "enum", "multipleOf"]

def droppedKeys : List String := ["collectionFormat", "allowEmptyValue"]

def defaultMediaTypes : Value := .list [.text "application/json"]

def hasText (fields : Fields) (key text : String) : Bool :=
  match fields.get? key with
  | some v => v.isText text
  | none => false

def valueSchema (parameter : Fields) : Value :=
  let described : Fields := valueKeys.filterMap fun key =>
    (parameter.get? key).map fun v => (.string key, v)
  convertSchema (.map (if hasText described "type" "file" then
    Fields.insert (.string "format") (.text "binary")
      (Fields.insert (.string "type") (.text "string") described)
    else described))

def isTextIn (keys : List String) : Atom → Bool
  | .string key => key ∈ keys
  | _ => false

/-- Converts a parameter that is no part of a body. -/
def convertPlain (parameter : Fields) : Conversion Value := do
  let kept := parameter.filter fun entry =>
    !isTextIn valueKeys entry.1 && !isTextIn droppedKeys entry.1
  let result := Fields.insert (.string "schema") (valueSchema parameter) kept
  match parameter.given? "collectionFormat" with
  | some format =>
    if format.isText "csv" then return .map result
    else
      Conversion.warn ("collectionFormat '" ++ format.plain ++ "' of parameter '" ++
        shown (parameter.get? "name") ++ "' is not converted")
      return .map result
  | none => return .map result

def contentOf (schema mediaTypes : Value) : Conversion Value := do
  let types ← Conversion.ofExcept mediaTypes.iterated
  let keys ← Conversion.each (fun v => Conversion.ofExcept v.asKey) types
  return .map (Fields.ofEntries (keys.map fun key => (key, .object [("schema", schema)])))

def convertBody (parameter : Fields) (consumes : Option Value) : Conversion Value := do
  let schema := convertSchema (Value.orElse (parameter.get? "schema") (.map []))
  let content ← contentOf schema (Value.orElse consumes defaultMediaTypes)
  let description := match parameter.present? "description" with
    | some v => [("description", v)]
    | none => []
  let required := match parameter.present? "required" with
    | some _ => [("required", Value.bool true)]
    | none => []
  return .object ([("content", content)] ++ description ++ required)

/-! ## Forms -/

/-- The media type of forms that hold files. -/
def multipart : String := "multipart/form-data"

/-- The media type of forms without files. -/
def urlEncoded : String := "application/x-www-form-urlencoded"

def formName (parameter : Fields) : Except Malformed Value :=
  match parameter.get? "name" with
  | some v => .ok v
  | none => .error .missingName

def formProperty (parameter : Fields) : Except Malformed (Atom × Value) :=
  match formName parameter with
  | .error m => .error m
  | .ok name => name.asKey.map fun key => (key, valueSchema parameter)

/-- whether the consumed media types hold that of forms with files -/
def allowsMultipart : Option Value → Except Malformed Bool
  | none => .ok false
  | some v => if v.truthy then v.holds multipart else .ok false

/-- The media type of a form.  A file needs the one for files, even if it is not consumed. -/
def formMediaType (hasFile : Bool) (consumes : Option Value) : Conversion String :=
  if hasFile then do
    let allowed ← Conversion.ofExcept (allowsMultipart consumes)
    match consumes.filter Value.truthy with
    | some types =>
      if allowed then return multipart
      else
        Conversion.warn ("File upload parameter requires multipart/form-data, " ++
          "but consumes specifies: " ++ types.plain)
        return multipart
    | none => return multipart
  else do
    let allowed ← Conversion.ofExcept (allowsMultipart consumes)
    return if allowed then multipart else urlEncoded

/-- Converts the parameters of a form to a body. -/
def convertForm (parameters : List Fields) (consumes : Option Value) : Conversion Value := do
  let mediaType ← formMediaType (parameters.any fun p => hasText p "type" "file") consumes
  let properties ← Conversion.each (fun p => Conversion.ofExcept (formProperty p)) parameters
  let required := parameters.filterMap fun p =>
    if (p.present? "required").isSome then p.get? "name" else none
  let schema := .object ([("type", .text "object"),
    ("properties", .map (Fields.ofEntries properties))] ++
    (if required.isEmpty then [] else [("required", .list required)]))
  return .object [("content", .object [(mediaType, .object [("schema", schema)])])]

/-! ## Parameter lists -/

/-- What a parameter of a list becomes. -/
inductive ConvertedParameter where
  | listed (parameter : Value)
  | body (body : Value)
  | formPart (parameter : Fields)

def pointerName (target : String) : String :=
  String.ofList (Text.afterLastChar '/' target.toList)

/-- Converts a pointer in a parameter list; `bodies` are the names of the parameters that are
bodies. -/
def convertPointer (bodies : List Atom) (target : String) : ConvertedParameter :=
  if Text.startsWith "#/parameters/" target && bodies.contains (.string (pointerName target)) then
    .body (.object [("$ref", .text ("#/components/requestBodies/" ++ pointerName target))])
  else .listed (.object [("$ref", .text (movePointer target))])

/-- Converts a parameter of a list. -/
def convertParameter (bodies : List Atom) (consumes : Option Value) (parameter : Value) :
    Conversion ConvertedParameter := do
  let fields ← Conversion.ofExcept parameter.entries
  match fields.present? "$ref" with
  | some pointer =>
    let target ← Conversion.ofExcept pointer.asText
    return convertPointer bodies target
  | none =>
    if hasText fields "in" "body" then
      let body ← convertBody fields consumes
      return .body body
    else if hasText fields "in" "formData" then return .formPart fields
    else
      let plain ← convertPlain fields
      return .listed plain

/-- Converts a parameter list to one without bodies, and the body.  The last body counts; a form is
one only if there is no other. -/
def convertParameters (bodies : List Atom) (consumes : Option Value) (parameters : Value) :
    Conversion (List Value × Option Value) := do
  let items ← Conversion.ofExcept parameters.iterated
  let converted ← Conversion.each (convertParameter bodies consumes) items
  let listed := converted.filterMap fun p =>
    match p with
    | .listed v => some v
    | _ => none
  let body := (converted.filterMap fun p =>
    match p with
    | .body v => some v
    | _ => none).getLast?
  let form := converted.filterMap fun p =>
    match p with
    | .formPart fields => some fields
    | _ => none
  match body, form with
  | none, _ :: _ =>
    let formBody ← convertForm form consumes
    return (listed, some formBody)
  | _, _ => return (listed, body)

end ApiBindings.Swagger
