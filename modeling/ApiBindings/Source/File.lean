import ApiBindings.Source.Accessor

/-!
# Generated files

A file has a header with imports, then blocks of declarations, then the accessors of all operations.
-/

namespace ApiBindings.Source

/-- How a file is written: the module that the runtime components come from, further imports, and
whether there are hooks. -/
structure Options where
  runtimeModule : String := "restful-react"
  customImport : Option String := none
  hooks : Bool := true
deriving DecidableEq, Repr

def runtimeNames (hooks : Bool) : List String :=
  ["Get", "GetProps"] ++ (if hooks then ["useGet", "UseGetProps"] else []) ++
    ["Mutate", "MutateProps"] ++ (if hooks then ["useMutate", "UseMutateProps"] else []) ++
    ["Poll", "PollProps"]

/-- The line of a further import, without the blanks around it; none if it is missing or empty. -/
def customLines (customImport : Option String) : List String :=
  match customImport with
  | some statement => if statement = "" then [] else [String.ofList (Text.trim statement.toList)]
  | none => []

def header (options : Options) : String :=
  Text.join "\n"
    (["/* Generated by restful-react */", "", "import qs from \"qs\";",
        "import React from \"react\";",
        "import \x7b " ++ Text.join ", " (runtimeNames options.hooks) ++ " \x7d from \"" ++
          options.runtimeModule ++ "\";"] ++
      customLines options.customImport ++
      ["", "export type Omit<T, K extends keyof T> = Pick<T, Exclude<keyof T, K>>;", ""])

def declarationText (d : TypeScript.Declaration) : String :=
  if d.interface then "export interface " ++ d.name ++ " " ++ d.expression
  else "export type " ++ d.name ++ " = " ++ d.expression ++ ";"

def declarationBlock (declarations : List TypeScript.Declaration) : String :=
  if declarations.isEmpty then ""
  else "\n" ++ Text.join "\n\n" (declarations.map declarationText) ++ "\n"

/-- The accessors of an operation, the type of its response in front if it has a name. -/
def bindingText (options : Options) (b : Binding) : String :=
  declarationBlock b.responseDeclaration.toList ++ component b ++
    (if options.hooks then hook b else "") ++ (if b.polling then pollComponent b else "")

def file (options : Options) (declarations : List (List TypeScript.Declaration))
    (bindings : List Binding) : String :=
  Text.join ""
    (header options :: (declarations.map declarationBlock ++ bindings.map (bindingText options)))

end ApiBindings.Source
