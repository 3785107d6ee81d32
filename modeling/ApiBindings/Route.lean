import ApiBindings.Text.Word

/-!
# Routes

A route is a path with placeholders in braces.  In generated code it becomes a template in which a
placeholder is an interpolation.
-/

namespace ApiBindings.Route

/-- Reads the placeholders from a place on; inside an open brace the name so far is kept, in
reverse. -/
def placeholdersFrom : Option (List Char) → List Char → List (List Char)
  | _, [] => []
  | none, c :: cs => placeholdersFrom (if c = '{' then some [] else none) cs
  | some name, c :: cs =>
    if c = '{' then placeholdersFrom (some []) cs
    else if c = '}' then
      if name.isEmpty then placeholdersFrom none cs
      else name.reverse :: placeholdersFrom none cs
    else if Text.isWordChar c then placeholdersFrom (some (c :: name)) cs
    else placeholdersFrom none cs

/-- The names of the placeholders, words in braces, from left to right with repetitions. -/
def placeholders (path : String) : List String :=
  (placeholdersFrom none path.toList).map String.ofList

/-- Puts a dollar sign before every opening brace. -/
def templateChars (path : List Char) : List Char :=
  path.flatMap fun c => if c = '{' then ['$', '{'] else [c]

def template (path : String) : String := String.ofList (templateChars path.toList)

/-- The template before its last segment and the name in it, if that segment is an interpolated
word.  A line feed at the very end does not count. -/
def splitTrailing? (template : List Char) : Option (List Char × List Char) :=
  let reversed := match template.reverse with
    | '\n' :: rest => rest
    | rest => rest
  match reversed with
  | '}' :: rest =>
    let name := rest.takeWhile Text.isWordChar
    if name.isEmpty then none
    else match rest.drop name.length with
      | '{' :: '$' :: '/' :: before => some (before.reverse, name.reverse)
      | _ => none
  | _ => none

end ApiBindings.Route
