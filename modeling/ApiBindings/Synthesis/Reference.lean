import ApiBindings.Failure
import ApiBindings.TypeScript.Name

/-!
# References

A pointer to a component becomes the name of the type that is declared for the component.  The
suffix of the name tells the kinds of components apart.
-/

namespace ApiBindings

/-- The beginnings of pointers into the components, with the suffix of the type names there. -/
def referencePrefixes : List (String × String) :=
  [("#/components/schemas/", ""), ("#/components/responses/", "Response"),
    ("#/components/parameters/", "Parameter"), ("#/components/requestBodies/", "RequestBody")]

/-- The name and the suffix of the component that a pointer leads to. -/
def splitReference? (target : String) : Option (String × String) :=
  referencePrefixes.findSome? fun entry =>
    (Text.dropStart? entry.1 target).map fun name => (name, entry.2)

def referenceType (target : String) : Except Failure String :=
  match splitReference? target with
  | some (name, suffix) => .ok (TypeScript.pascal name ++ suffix)
  | none => .error (.unsupportedReference target)

end ApiBindings
