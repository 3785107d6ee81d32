import ApiBindings.Binding.Basic
import ApiBindings.TypeScript.Name

/-!
# Variables in generated code

An accessor takes its parameters apart into local variables and puts these into the path that it
requests.  A parameter whose name is no usable variable is renamed in both places alike.
-/

namespace ApiBindings.Source

open TypeScript (bindingName bindingEntry)

def interpolation (variableName : String) : String := "$\x7b" ++ variableName ++ "\x7d"

def renameIn (route : String) (parameter : BindingParameter) : String :=
  if bindingName parameter.name = parameter.name then route
  else
    Text.replace (interpolation parameter.name) (interpolation (bindingName parameter.name)) route

/-- The entries that connect parameters with their variables, separated by commas. -/
def entriesOf (parameters : List BindingParameter) : List String :=
  parameters.map fun p => bindingEntry p.name

def queryExpression (parameters : List BindingParameter) : String :=
  if parameters.isEmpty then ""
  else "?$\x7bqs.stringify(\x7b" ++ Text.join ", " (entriesOf parameters) ++ "\x7d)\x7d"

/-- The path that an accessor requests, without the quotes of the template. -/
def pathExpression (b : Binding) : String :=
  b.pathParameters.foldl renameIn b.route ++ queryExpression b.queryParameters

/-- The pattern that takes the properties of an accessor apart. -/
def destructured (b : Binding) : String :=
  "\x7b" ++ Text.join ", " (entriesOf b.parameters ++ ["...props"]) ++ "\x7d"

end ApiBindings.Source
