import ApiBindings.Generate
import ApiBindings.OpenApi.ReadDescription
import ApiBindings.Runtime
import ApiBindings.Web.Reply

/-!
# Loading descriptions

A document is read from a file or from the web, upgraded if it is of the older version, and checked.
A loader keeps the warnings of all its upgrades.
-/

namespace ApiBindings

/-! ## Reading sources -/

structure Sources where
  files : FileSystem
  web : Web

def parsedContent {ε : Type} (source : String) (cause : ε → Cause) :
    Except (ParserStop ε) Value → Attempt Value
  | .ok v => .ok v
  | .error (.told e) => .fail (.notLoaded source (some (cause e)))
  | .error (.breakdown b) => .breakDown b

def jsonContent (runtime : Runtime) (source : String) (text : List Char) : Attempt Value :=
  parsedContent source .json (runtime.json text)

def yamlContent (runtime : Runtime) (source : String) (text : List Char) : Attempt Value :=
  parsedContent source (fun _ => .yaml) (runtime.yaml text)

/-- The value in a file: JSON if its name ends so, otherwise YAML. -/
def FileSystem.content (fs : FileSystem) (source : String) (runtime : Runtime) :
    Attempt Value := do
  let p := Path.ofText source
  if ← fs.isThere p then
    match fs.readText p with
    | .error (.fault fault) => .fail (.notLoaded source (some (.file fault p.text)))
    | .error .undecodable => .breakDown .undecodable
    | .ok text =>
      if p.suffix = ".json" then jsonContent runtime source text
      else yamlContent runtime source text
  else .fail (.notLoaded source (some (.fileNotFound p.text)))

/-- whether a reply is YAML by its content type or by the address asked for -/
def isYamlReply (url : String) (r : Web.Reply) : Bool :=
  Text.occursIn "yaml".toList ((r.header? "content-type").getD "").toList ||
    Text.endsWith ".yaml" url || Text.endsWith ".yml" url

/-- The value at an address: YAML if it says so, otherwise JSON. -/
def Web.content (w : Web) (url : String) (runtime : Runtime) : Attempt Value :=
  match w.fetch url with
  | .error (.cause cause) => .fail (.notLoaded url (some cause))
  | .error (.breakdown b) => .breakDown b
  | .ok r =>
    match r.content? with
    | none => .breakDown .unreadableReply
    | some text =>
      if isYamlReply url r then yamlContent runtime url text.toList
      else jsonContent runtime url text.toList

def Sources.content (s : Sources) (source : String) (runtime : Runtime) : Attempt Value :=
  if Web.isUrl source then s.web.content source runtime else s.files.content source runtime

/-! ## Versions -/

/-- The version under the key of the older kind of documents, if the document has one. -/
def swaggerVersion? (document : Value) (runtime : Runtime := .usual) :
    Attempt (Option String) := do
  if ← .ofRaw (document.holds "swagger") then
    match document with
    | .map fields =>
      let version ← runtime.text ((Fields.get? fields "swagger").getD .null)
      return some version
    | _ => .breakDown (.malformed .notIndexable)
  else return none

/-- The description in a document that is not older. -/
def checkedDescription (document : Value) (source : String) (runtime : Runtime := .usual) :
    Attempt Description := do
  let fields ← .ofRaw document.entries
  match Fields.present? fields "openapi" with
  | none => .fail (.unsupportedVersion none)
  | some v =>
    let version ← runtime.text v
    if isSupportedVersion version then
      match Description.read document with
      | .ok d => return d
      | .error issues => .fail (.invalid source (issues.map Issue.text))
    else .fail (.unsupportedVersion (some version))

/-! ## Loaders -/

/-- What a loader keeps: the warnings of all upgrades. -/
structure Loader where
  warnings : List String := []

namespace Loader

def namelessSource : String := "<document>"

/-- The document of the newer version, with the warnings of an upgrade. -/
def upgraded (document : Value) (runtime : Runtime) : Attempt (Noted Value) := do
  match ← swaggerVersion? document runtime with
  | none => return ⟨document, []⟩
  | some "2.0" => runtime.convert document
  | some version => .fail (.unsupportedVersion (some version))

/-- The description in a document.  The warnings stay even if the upgraded document fails. -/
def parse (l : Loader) (document : Value) (source : String) (runtime : Runtime := .usual) :
    Attempt Description × Loader :=
  match upgraded document runtime with
  | .error e => (.error e, l)
  | .ok u => (checkedDescription u.value source runtime, ⟨l.warnings ++ u.warnings⟩)

def load (l : Loader) (sources : Sources) (source : String) (runtime : Runtime := .usual) :
    Attempt Description × Loader :=
  match sources.content source runtime with
  | .error e => (.error e, l)
  | .ok (.map fields) => l.parse (.map fields) source runtime
  | .ok _ => (.fail (.notLoaded source (some .notMapping)), l)

end Loader

end ApiBindings
