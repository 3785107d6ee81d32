import ApiBindings.Binding.Build
import ApiBindings.Source.File
import ApiBindings.Synthesis.ComponentDeclarations

/-!
# Generating bindings

A description becomes the text of a file: first the declarations of its components, then the
accessors of its operations.  The first failure is reported, and then there is no text at all.
-/

namespace ApiBindings

def isSupportedVersion (version : String) : Bool := Text.startsWith "3.0" version

namespace Description

def componentsOrEmpty (d : Description) : Components :=
  d.components.getD ⟨.absent, .absent, .absent, .absent, []⟩

/-- The blocks of declarations: schemas and, if wanted, responses and request bodies. -/
def declarationBlocks (d : Description) (includeResponses : Bool) :
    Except Failure (List (List TypeScript.Declaration)) := do
  let schemas ← schemaDeclarations (d.componentsOrEmpty.schemas.getD [])
  if includeResponses then
    let responses ← payloadDeclarations "Response" (d.componentsOrEmpty.responses.getD [])
    let bodies ← payloadDeclarations "RequestBody" (d.componentsOrEmpty.requestBodies.getD [])
    return [schemas, responses, bodies]
  else return [schemas]

def generate (d : Description) (options : Source.Options) (includeResponses : Bool) :
    Except Failure String :=
  if isSupportedVersion d.openapi then do
    let declarations ← d.declarationBlocks includeResponses
    let bindings ← d.bindings
    return Source.file options declarations bindings
  else .error (.unsupportedVersion (some d.openapi))

end Description

end ApiBindings
