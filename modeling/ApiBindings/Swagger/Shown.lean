import ApiBindings.Swagger.Document

/-!
# What a conversion shows and copies

Some values of a document are put into texts when it is converted: the parts of the address of a
server, the keys of responses, and what is warned about.  Others are copied with all their parts.
-/

namespace ApiBindings.Swagger

def shownInServers (document : Fields) : List Value :=
  match document.present? "host" with
  | none => []
  | some host =>
    match (Value.orElse (document.get? "schemes") (.list [.text "http"])).iterated with
    | .ok (scheme :: others) =>
      scheme :: others ++ host :: (document.present? "basePath").toList
    | _ => []

/-! ## Parameters -/

def shownInPlain (parameter : Fields) : List Value :=
  match parameter.given? "collectionFormat" with
  | some format =>
    if format.isText "csv" then [] else [format, (parameter.get? "name").getD .null]
  | none => []

/-- The values in the warnings on a component parameter or one of a list. -/
def shownInParameter (parameter : Value) : List Value :=
  match parameter with
  | .map fields =>
    if (Fields.present? fields "$ref").isSome || hasText fields "in" "body" ||
      hasText fields "in" "formData" then []
    else shownInPlain fields
  | _ => []

/-- The media types that do not allow the file of a form. -/
def shownInForm (parameters : List Fields) (consumes : Option Value) : List Value :=
  if parameters.any fun p => hasText p "type" "file" then
    (consumes.filter fun types =>
      types.truthy && !((types.holds multipart).toOption.getD true)).toList
  else []

def shownInParameters (bodies : List Atom) (consumes : Option Value) (parameters : Value) :
    List Value :=
  let items := (parameters.iterated.toOption).getD []
  let converted := items.filterMap fun item =>
    (convertParameter bodies consumes item).toOption.map Noted.value
  let form := converted.filterMap fun p =>
    match p with
    | .formPart fields => some fields
    | _ => none
  let hasBody := converted.any fun p =>
    match p with
    | .body _ => true
    | _ => false
  items.flatMap shownInParameter ++ if hasBody then [] else shownInForm form consumes

/-! ## Paths -/

def shownInOperationEntry (setting : Setting) (operation : Fields) (entry : Atom × Value) :
    List Value :=
  match entry with
  | (.string "parameters", parameters) =>
    shownInParameters setting.bodies (mediaTypesOr (operation.get? "consumes") setting.consumes)
      (Value.orElse (some parameters) (.list []))
  | (.string "responses", .map responses) => responses.map fun response => .atom response.1
  | _ => []

def shownInOperation (setting : Setting) : Value → List Value
  | .map fields =>
    fields.flatMap (shownInOperationEntry setting fields) ++
      if Fields.has fields "schemes" then [(Fields.get? fields "operationId").getD .null] else []
  | _ => []

def shownInPathEntry (setting : Setting) (entry : Atom × Value) : List Value :=
  if isTextIn methods entry.1 then shownInOperation setting entry.2
  else if entry.1 = .string "parameters" then
    shownInParameters setting.bodies none (Value.orElse (some entry.2) (.list []))
  else []

def shownInPath (setting : Setting) : Atom × Value → List Value
  | (.string path, .map fields) =>
    if Text.startsWith "x-" path then [] else fields.flatMap (shownInPathEntry setting)
  | _ => []

/-! ## Documents -/

def partsUnder (document : Fields) (key : String) : Fields :=
  (mappingOr document key).toOption.getD []

/-- The values of a document that its conversion shows. -/
def shownValues : Value → List Value
  | .map document =>
    let setting : Setting :=
      ⟨bodyNames document, Fields.get? document "consumes", Fields.get? document "produces"⟩
    shownInServers document ++
      (partsUnder document "parameters").flatMap (fun entry => shownInComponent entry.2) ++
      (partsUnder document "paths").flatMap (shownInPath setting)
  | _ => []
where
  /-- A component parameter is a body or it is not; a pointer is converted like any other. -/
  shownInComponent : Value → List Value
    | .map fields => if hasText fields "in" "body" then [] else shownInPlain fields
    | _ => []

def copiedKeys : List String :=
  ["info", "definitions", "parameters", "responses", "paths"] ++ keptKeys

def copiedValues : Value → List Value
  | .map document => (document.filter fun entry => isTextIn copiedKeys entry.1).map (·.2)
  | _ => []

end ApiBindings.Swagger
