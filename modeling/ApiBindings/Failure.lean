import ApiBindings.Document.Literal
import ApiBindings.Json.SyntaxError
import ApiBindings.Text.UpperCase
import ApiBindings.Web.Address
import ApiBindings.Web.Deflate
import ApiBindings.Web.Status

/-!
# Failures

Everything that can stop a run.  A `Failure` is a cause with the facts that it is about; its
message is composed here and nowhere else.
-/

namespace ApiBindings

/-! ## Causes -/

/-- Why the operating system refuses to read or write a file. -/
inductive FileFault where
  | missing
  | exists_
  | notDirectory
  | isDirectory
deriving DecidableEq, Repr

def FileFault.describe : FileFault → String
  | missing => "[Errno 2] No such file or directory"
  | exists_ => "[Errno 17] File exists"
  | notDirectory => "[Errno 20] Not a directory"
  | isDirectory => "[Errno 21] Is a directory"

/-- What stood in the way of reading or writing a document. -/
inductive Cause where
  | stated (text : String)
  | notMapping
  | fileNotFound (path : String)
  | file (fault : FileFault) (path : String)
  | json (error : Json.SyntaxError)
  | yaml
  | status (refusal : Web.Refusal)
  | connection (text : String)
  | tooManyRedirects
  | badLocation (fault : Web.AddressFault)
  | notCompressed (fault : Web.Deflate.Fault)
deriving DecidableEq, Repr

/-- What is said of a YAML text that cannot be read; the place is not told. -/
def yamlErrorText : String := "<yaml error>"

/-- The text of a cause. -/
def Cause.message : Cause → String
  | stated text => text
  | notMapping => "the document is not a mapping"
  | fileNotFound path => "File not found: " ++ path
  | file fault path => fault.describe ++ ": " ++ textLiteral path
  | json error => error.message
  | yaml => yamlErrorText
  | status refusal => refusal.message
  | connection text => text
  | tooManyRedirects => "Exceeded maximum allowed redirects."
  | badLocation fault => "Invalid URL in location header: " ++ fault.message ++ "."
  | notCompressed fault => "Error -3 while decompressing data: " ++ fault.text

/-- Why a pointer leads to no component. -/
inductive DeadEnd where
  | circular
  | notFound
  | stated (text : String)
deriving DecidableEq, Repr

def DeadEnd.message : DeadEnd → String
  | circular => "circular parameter reference"
  | notFound => "not found in components.parameters"
  | stated text => text

/-! ## Failures -/

/-- Why a run stops. -/
inductive Failure where
  /-- Any failure, with its message. -/
  | general (message : String)
  /-- Any failure of a description. -/
  | description (message : String)
  /-- A source cannot be read. -/
  | notLoaded (source : String) (cause : Option Cause)
  /-- A document has not the structure of a description. -/
  | invalid (source : String) (issues : List String)
  /-- A document is of another version, or of none. -/
  | unsupportedVersion (version : Option String)
  /-- A pointer leads to no component. -/
  | unresolvedReference (target : String) (reason : Option DeadEnd)
  /-- A pointer leads outside the supported components. -/
  | unsupportedReference (target : String)
  /-- Any failure of the generation. -/
  | generation (message : String) (context : Option String) (cause : Option Cause)
  /-- Any failure to give a type to a schema. -/
  | typing (message : String) (context : Option String) (cause : Option Cause)
  /-- A schema of an array says nothing about its items. -/
  | missingItems (site : Option String)
  /-- A schema of strings lists a value that is no string. -/
  | mixedEnum (values : List Value) (site : Option String)
  /-- Any failure of one operation. -/
  | operation (message : String) (id method path : Option String) (cause : Option Cause)
  /-- An operation has no id. -/
  | missingOperationId (method path : String)
  /-- Two operations have one id. -/
  | duplicateOperationId (id method path : String)
  /-- A placeholder of a route is no declared parameter. -/
  | undeclaredPathParameter (name id method path : String)
  /-- The configuration cannot be used. -/
  | configuration (message : String) (path field : Option String)
  /-- The output cannot be written. -/
  | notWritten (path : String) (cause : Option Cause)

/-! ## Messages -/

def givenText? : Option String → Option String
  | some s => if s = "" then none else some s
  | none => none

def withPart (message : String) (part : Option String) : String :=
  match part with
  | some s => message ++ s
  | none => message

def operationContext (id method path : Option String) : Option String :=
  match givenText? id, givenText? method, givenText? path with
  | none, some method, some path => some (Text.upper method ++ " " ++ path)
  | _, _, _ => id

namespace Failure

/-- What was being generated. -/
def context : Failure → Option String
  | generation _ context _ => context
  | typing _ context _ => context
  | missingItems site => site
  | mixedEnum _ site => site
  | operation _ id method path _ => operationContext id method path
  | missingOperationId method path => operationContext none (some method) (some path)
  | duplicateOperationId id method path => operationContext (some id) (some method) (some path)
  | undeclaredPathParameter _ id method path =>
    operationContext (some id) (some method) (some path)
  | _ => none

def cause : Failure → Option Cause
  | notLoaded _ cause => cause
  | generation _ _ cause => cause
  | typing _ _ cause => cause
  | operation _ _ _ _ cause => cause
  | notWritten _ cause => cause
  | _ => none

def supportedReferences : String :=
  "only $ref included into `#/components/schemas`, `#/components/responses`, " ++
    "`#/components/parameters` and `#/components/requestBodies` can be resolved"

/-- The message without context and cause. -/
def headline : Failure → String
  | general message => message
  | description message => message
  | notLoaded source _ => "Failed to load schema from '" ++ source ++ "'"
  | invalid source issues =>
    withPart ("Schema validation failed for '" ++ source ++ "'")
      (if issues.isEmpty then none else some (": " ++ Text.join "; " issues))
  | unsupportedVersion version =>
    match givenText? version with
    | some version =>
      "Unsupported document version '" ++ version ++
        "', only OpenAPI 3.0.x (or Swagger 2.0) documents can be converted"
    | none => "The document has no `openapi` version field"
  | unresolvedReference target reason =>
    withPart ("Failed to resolve reference '" ++ target ++ "'")
      ((givenText? (reason.map DeadEnd.message)).map (": " ++ ·))
  | unsupportedReference target =>
    "Failed to resolve reference '" ++ target ++ "': " ++ supportedReferences
  | generation message _ _ => message
  | typing message _ _ => message
  | missingItems _ => "All arrays must have an `items` key defined"
  | mixedEnum values _ =>
    "String enums can only hold string values, got " ++ (Value.list values).literal
  | operation message _ _ _ _ => message
  | missingOperationId method path =>
    "Every path must have an operationId - No operationId set for " ++ method ++ " " ++ path
  | duplicateOperationId id _ _ => "\"" ++ id ++ "\" is duplicated in your schema definition!"
  | undeclaredPathParameter name _ _ _ =>
    "The path param '" ++ name ++ "' can't be found in parameters"
  | configuration message path field =>
    withPart (withPart message ((givenText? path).map fun p => " in '" ++ p ++ "'"))
      ((givenText? field).map fun f => " (field: " ++ f ++ ")")
  | notWritten path _ => "Failed to write output to '" ++ path ++ "'"

/-- The message: what failed, what was being generated, and what caused it. -/
def message (f : Failure) : String :=
  withPart
    (withPart f.headline
      ((givenText? f.context).map fun context => " (while generating " ++ context ++ ")"))
    (f.cause.map fun cause => ": " ++ cause.message)

end Failure

end ApiBindings
