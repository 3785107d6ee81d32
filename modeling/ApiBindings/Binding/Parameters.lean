import ApiBindings.Failure
import ApiBindings.OpenApi.Description

/-!
# Parameters of an operation

A parameter may be given by a pointer into the component parameters, which may hold pointers again.
Following a chain of them uses up one component at every step, so it comes to an end.  The resolved
parameters are sorted by the place where they are sent.
-/

namespace ApiBindings

def parameterPrefix : String := "#/components/parameters/"

/-- Follows a chain of pointers.  `unseen` are the components that were not yet followed: a pointer
to one that was closes a circle. -/
def followParameter (components unseen : List (String × Referable Parameter)) :
    Referable Parameter → Except Failure Parameter
  | .inline parameter => .ok parameter
  | .ref target =>
    match Text.dropStart? parameterPrefix target with
    | none => .error (.unsupportedReference target)
    | some name =>
      match _h : unseen.find? fun entry => entry.1 == name with
      | some entry =>
        followParameter components (unseen.eraseP fun entry => entry.1 == name) entry.2
      | none =>
        if components.any fun entry => entry.1 == name then
          .error (.unresolvedReference target (some .circular))
        else .error (.unresolvedReference target (some .notFound))
termination_by unseen.length
decreasing_by
  rw [List.length_eraseP_of_mem (List.mem_of_find?_eq_some _h) (List.find?_some _h)]
  have := List.length_pos_of_mem (List.mem_of_find?_eq_some _h)
  omega

namespace Description

/-- The parameter itself, or the one that a chain of pointers leads to. -/
def resolveParameter (d : Description) (parameter : Referable Parameter) :
    Except Failure Parameter :=
  followParameter d.parameters d.parameters parameter

def resolveParameters (d : Description) :
    List (Referable Parameter) → Except Failure (List Parameter)
  | [] => .ok []
  | parameter :: rest => do
    let resolved ← d.resolveParameter parameter
    let others ← d.resolveParameters rest
    return resolved :: others

end Description

/-- The parameters of an operation by the place where they are sent; other places are left out. -/
structure SortedParameters where
  query : List Parameter
  path : List Parameter
  header : List Parameter

namespace SortedParameters

def ofList (parameters : List Parameter) : SortedParameters where
  query := parameters.filter fun p => p.location == "query"
  path := parameters.filter fun p => p.location == "path"
  header := parameters.filter fun p => p.location == "header"

def findPath? (sorted : SortedParameters) (name : String) : Option Parameter :=
  sorted.path.find? fun p => p.name == name

end SortedParameters

/-- The resolved and sorted parameters of an operation; those that it shares with the other
operations of its path come first. -/
def Description.sortParameters (d : Description)
    (shared own : Given (List (Referable Parameter))) : Except Failure SortedParameters :=
  (d.resolveParameters (shared.getD [] ++ own.getD [])).map SortedParameters.ofList

end ApiBindings
