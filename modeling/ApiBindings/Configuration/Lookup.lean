import ApiBindings.Configuration.Basic
import ApiBindings.Runtime

/-!
# Finding the configuration

The configuration is in the file that is asked for or, if none is, in the first of the usual files
in the working directory.
-/

namespace ApiBindings

def configurationFailure {α : Type} (message : String) (path : String) : Attempt α :=
  .fail (.configuration message (some path) none)

def FileSystem.neededText (fs : FileSystem) (p : Path) : Attempt (List Char) :=
  match fs.readText p with
  | .ok text => .ok text
  | .error (.fault fault) => .breakDown (.unreadable fault)
  | .error .undecodable => .breakDown .undecodable

namespace Configuration

/-- What is said of settings that are no configuration. -/
def invalid {α : Type} (reason path : String) : Attempt α :=
  configurationFailure ("Invalid configuration (" ++ reason ++ ")") path

/-- The configuration that a value is, an empty value being no settings at all. -/
def ofValue (runtime : Runtime) (v : Value) (path : String) : Attempt Configuration :=
  match runtime.gathering (if v.truthy then v else .map []) with
  | .error (.breakdown b) => .breakDown b
  | .error (.told reason) => invalid reason path
  | .ok settings =>
    match read settings with
    | .ok c => .ok c
    | .error issues => invalid (Text.join "; " (issues.map Issue.text)) path

/-- What is said of a configuration that cannot be parsed. -/
def unparsable {α : Type} (reason path : String) : Attempt α :=
  configurationFailure ("Cannot parse configuration: " ++ reason) path

def ofParsed {ε : Type} (runtime : Runtime) (path : String) (reason : ε → String) :
    Except (ParserStop ε) Value → Attempt Configuration
  | .ok v => ofValue runtime v path
  | .error (.told e) => unparsable (reason e) path
  | .error (.breakdown b) => .breakDown b

/-- The configuration in a file that was asked for: JSON if its name ends so, otherwise YAML. -/
def ofFile (fs : FileSystem) (path : String) (runtime : Runtime) : Attempt Configuration := do
  let p := Path.ofText path
  if ← fs.isThere p then
    let text ← fs.neededText p
    if p.suffix = ".json" then ofParsed runtime path Json.SyntaxError.message (runtime.json text)
    else ofParsed runtime path (fun _ => yamlErrorText) (runtime.yaml text)
  else configurationFailure "Configuration file not found" path

/-! ## The usual files -/

def usualNames : List String := ["restfulgen.yaml", "restfulgen.yml"]

def projectName : String := "pyproject.toml"

def atHome (fs : FileSystem) (name : String) : Path := ⟨"/", fs.home ++ [name]⟩

def ofUsualFile (fs : FileSystem) (p : Path) (runtime : Runtime) : Attempt Configuration := do
  let text ← fs.neededText p
  match runtime.yaml text with
  | .ok v => ofValue runtime v p.text
  | .error (.told _) => .breakDown (.yaml .syntaxError)
  | .error (.breakdown b) => .breakDown b

/-- The table of the configuration in the project file, if there is one. -/
def projectTable? (fields : Fields) : Except Malformed (Option Value) := do
  let tools := (Fields.get? fields "tool").getD (.map [])
  if ← tools.holds "restfulgen" then
    match tools with
    | .map tables => return Fields.get? tables "restfulgen"
    | _ => throw .notIndexable
  else return none

def notFound : Failure :=
  .configuration ("No configuration found, create restfulgen.yaml or a [tool.restfulgen] " ++
    "table in pyproject.toml") none none

def ofProject (fs : FileSystem) (p : Path) (runtime : Runtime) : Attempt Configuration := do
  let text ← fs.neededText p
  match runtime.toml text with
  | .error b => .breakDown b
  | .ok fields =>
    match ← Attempt.ofRaw (projectTable? fields) with
    | some v => ofValue runtime v p.text
    | none => .fail notFound

def firstThere (fs : FileSystem) : List String → Attempt (Option String)
  | [] => .ok none
  | name :: others => do
    if ← fs.isThere (atHome fs name) then return some name else firstThere fs others

def discovered (fs : FileSystem) (runtime : Runtime) : Attempt Configuration := do
  match ← firstThere fs usualNames with
  | some name => ofUsualFile fs (atHome fs name) runtime
  | none =>
    if ← fs.isThere (atHome fs projectName) then ofProject fs (atHome fs projectName) runtime
    else .fail notFound

def find (fs : FileSystem) (path : Option String) (runtime : Runtime := .usual) :
    Attempt Configuration :=
  match givenText? path with
  | some path => ofFile fs path runtime
  | none => discovered fs runtime

end Configuration

end ApiBindings
