import ApiBindings.Source.Comment
import ApiBindings.Source.Path
import ApiBindings.Text.UpperCase

/-!
# Accessors in generated code

Every operation has a component and, if wanted, a hook; an operation with long polling has a second
component that reads again and again.
-/

namespace ApiBindings.Source

def applied (name : String) (arguments : List String) : String :=
  name ++ "<" ++ Text.join ", " arguments ++ ">"

def propField (p : BindingParameter) : String :=
  let field := TypeScript.objectKey p.name ++ (if p.required then "" else "?") ++ ": " ++ p.type
  match p.description with
  | some description =>
    if description = "" then field else inlineComment description ++ " " ++ field
  | none => field

/-- The keys of the base properties that an accessor sets by itself. -/
def omittedKeys (mutation : Bool) : String := if mutation then "\"path\" | \"verb\"" else "\"path\""

def propsType (b : Binding) (base : String) (mutation : Bool) : String :=
  let own := applied "Omit" [base, omittedKeys mutation]
  if b.parameters.isEmpty then own
  else own ++ " & \x7b" ++ Text.join "; " (b.parameters.map propField) ++ "\x7d"

def verb (b : Binding) : String := Text.upper b.method

def pathLiteral (b : Binding) : String := "`" ++ pathExpression b ++ "`"

/-- A component that renders one of the runtime components. -/
def componentLines (b : Binding) (component name : String) (mutation polling : Bool) :
    List String :=
  let arguments := if mutation then b.typeArguments else b.readArguments
  let props := propsType b (applied (component ++ "Props") arguments) mutation
  ["", "export type " ++ name ++ "Props = " ++ props ++ ";", ""] ++
    docComment b.summary b.description polling ++
    ["export const " ++ name ++ " = (" ++ destructured b ++ ": " ++ name ++ "Props) => (",
      "  <" ++ applied component arguments] ++
    (if mutation then ["    verb=\"" ++ verb b ++ "\""] else []) ++
    ["    path=\x7b" ++ pathLiteral b ++ "\x7d", "    \x7b...props\x7d", "  />", ");", ""]

def component (b : Binding) : String :=
  Text.join "\n"
    (componentLines b (if b.isMutation then "Mutate" else "Get") b.name b.isMutation false)

/-- The component that polls; it only reads, whatever the method is. -/
def pollComponent (b : Binding) : String :=
  Text.join "\n" (componentLines b "Poll" ("Poll" ++ b.name) false true)

def hookCall (b : Binding) : String :=
  if b.isMutation then
    applied "useMutate" b.typeArguments ++ "(\"" ++ verb b ++ "\", " ++ pathLiteral b ++ ", props)"
  else applied "useGet" b.typeArguments ++ "(" ++ pathLiteral b ++ ", props)"

def hookProps (b : Binding) : String :=
  applied (if b.isMutation then "UseMutateProps" else "UseGetProps") b.typeArguments

/-- The hook of an operation. -/
def hook (b : Binding) : String :=
  let propsName := "Use" ++ b.name ++ "Props"
  Text.join "\n"
    (["", "export type " ++ propsName ++ " = " ++ propsType b (hookProps b) b.isMutation ++ ";",
        ""] ++
      docComment b.summary b.description false ++
      ["export const use" ++ b.name ++ " = (" ++ destructured b ++ ": " ++ propsName ++ ") => " ++
          hookCall b ++ ";",
        ""])

end ApiBindings.Source
