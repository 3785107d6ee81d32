import ApiBindings.OpenApi.ReadDescription
import ApiBindings.Source.File

/-!
# Configurations

A configuration lists jobs: each names a document and the file that the bindings made from it are
written to.
-/

namespace ApiBindings

/-- A document to be converted, and how. -/
structure Job where
  source : String
  output : String
  runtimeModule : String := "restful-react"
  customImport : Option String := none
  includeResponses : Bool := true
  hooks : Bool := true
deriving DecidableEq, Repr

/-- A list of jobs, which is not empty when it was read. -/
structure Configuration where
  jobs : List Job
deriving DecidableEq, Repr

namespace Job

def options (j : Job) : Source.Options := ⟨j.runtimeModule, j.customImport, j.hooks⟩

/-- Reads a job; further keys do not matter. -/
def read : Value → Checked Job :=
  readObject "DocumentConfig" fun fields =>
    Job.mk <$> requiredField readText fields "source" <*>
      requiredField readText fields "output" <*>
      .map (·.getD "restful-react") (presentField readText fields "runtime_module") <*>
      .map Given.toOption (optionalField readText fields "custom_import") <*>
      .map (·.getD true) (presentField readBoolean fields "include_responses") <*>
      .map (·.getD true) (presentField readBoolean fields "hooks")

end Job

def nonEmptyList {α : Type} (read : Value → Checked α) (v : Value) : Checked (List α) :=
  match readList read v with
  | .ok [] => .fail .emptyList
  | x => x

namespace Configuration

def unknownKeys (fields : Fields) : Checked Unit :=
  .map (fun _ => ()) (.all (fields.map fun entry =>
    if entry.1 = .string "documents" then .ok () else .failAt (keyLabel entry.1) .unknownKey))

def read : Value → Checked Configuration :=
  readObject "CodegenConfig" fun fields =>
    (fun jobs _ => Configuration.mk jobs) <$>
      requiredField (nonEmptyList Job.read) fields "documents" <*> unknownKeys fields

end Configuration

end ApiBindings
