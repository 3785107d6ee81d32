import ApiBindings.Text.Accent
import ApiBindings.Text.Quoted
import ApiBindings.Text.UpperCase

/-!
# Names in generated code

Type names are in Pascal case, local variables keep the name of their parameter where they can, and
object keys are quoted where a bare name would not do.
-/

namespace ApiBindings.TypeScript

/-! ## Identifiers -/

def startsIdentifier (c : Char) : Bool := c.isAlpha || c == '_' || c == '$'

def continuesIdentifier (c : Char) : Bool := c.isAlphanum || c == '_' || c == '$'

def dropFinalLineFeed (s : List Char) : List Char :=
  if s.getLast? = some '\n' then s.dropLast else s

/-- whether a name can be written unquoted as an object key: an ASCII identifier, which a line feed
may follow -/
def isIdentifier (name : String) : Bool :=
  match dropFinalLineFeed name.toList with
  | [] => false
  | c :: rest => startsIdentifier c && rest.all continuesIdentifier

def objectKey (name : String) : String :=
  if isIdentifier name then name else Text.quoted name

/-! ## Pascal case -/

/-- Sets a blank between a lower-case letter or digit and the capital after it. -/
def splitCapitals : List Char → List Char
  | [] => []
  | [c] => [c]
  | a :: b :: rest =>
    if (a.isLower || a.isDigit) && b.isUpper then a :: ' ' :: splitCapitals (b :: rest)
    else a :: splitCapitals (b :: rest)

/-- Sets a blank before the last of several capitals if a lower-case letter follows it, so that an
acronym is kept apart from the word behind it. -/
def splitAcronyms : List Char → List Char
  | a :: b :: c :: rest =>
    if a.isUpper && b.isUpper && c.isLower then a :: ' ' :: splitAcronyms (b :: c :: rest)
    else a :: splitAcronyms (b :: c :: rest)
  | s => s

/-- The maximal runs of ASCII letters and digits; the run under way is kept in reverse. -/
def alphanumericRuns (run : List Char) : List Char → List (List Char)
  | [] => if run.isEmpty then [] else [run.reverse]
  | c :: cs =>
    if c.isAlphanum then alphanumericRuns (c :: run) cs
    else if run.isEmpty then alphanumericRuns [] cs
    else run.reverse :: alphanumericRuns [] cs

/-- An underscore goes before a digit at the start, and a fixed name stands for none at all. -/
def legalTypeName (s : List Char) : List Char :=
  match s with
  | [] => "Unnamed".toList
  | c :: _ => if c.isDigit then '_' :: s else s

/-- A name in Pascal case.  Words end where a character is no ASCII letter or digit and where a
capital begins a word; only their first letters change, so acronyms survive. -/
def pascalChars (name : List Char) : List Char :=
  let parts := alphanumericRuns [] (splitAcronyms (splitCapitals (Text.stripAccents name)))
  legalTypeName (parts.flatMap Text.capitalize)

def pascal (name : String) : String := String.ofList (pascalChars name.toList)

/-- A name in Pascal case but for a lower-case letter at the start. -/
def camelChars (name : List Char) : List Char :=
  match pascalChars name with
  | [] => []
  | c :: rest => c.toLower :: rest

/-- A name in Pascal case but for a lower-case letter at the start. -/
def camel (name : String) : String := String.ofList (camelChars name.toList)

/-! ## Local variables -/

/-- Words that cannot name a local variable: those of the language in strict mode, and the name of
the rest variable that every accessor binds. -/
def reservedWords : List String :=
  ["break", "case", "catch", "class", "const", "continue", "debugger", "default", "delete", "do",
    "else", "enum", "export", "extends", "false", "finally", "for", "function", "if", "implements",
    "import", "in", "instanceof", "interface", "let", "new", "null", "package", "private",
    "protected", "public", "return", "static", "super", "switch", "this", "throw", "true", "try",
    "typeof", "var", "void", "while", "with", "yield", "arguments", "eval", "props"]

/-- The local variable that holds the value of a parameter. -/
def bindingName (name : String) : String :=
  let local_ := if isIdentifier name then name else camel name
  if local_ ∈ reservedWords then local_ ++ "_" else local_

/-- The entry of an object or a pattern that connects a parameter with its variable. -/
def bindingEntry (name : String) : String :=
  if bindingName name = name then name else objectKey name ++ ": " ++ bindingName name

end ApiBindings.TypeScript
