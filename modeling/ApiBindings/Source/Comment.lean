import ApiBindings.Text.Basic
import ApiBindings.Text.Blank

/-!
# Comments in generated code

Summary and description of an operation become the comment of its accessor; the description of a
parameter becomes an inline comment.  The sequence that would end a comment is escaped in both.
-/

namespace ApiBindings.Source

def escapeComment (s : List Char) : List Char := Text.replaceAll ['*', '/'] ['*', '\\', '/'] s

/-- The lines of a text without the blanks around it, none if it is missing or blank. -/
def textLines (s : Option String) : List (List Char) :=
  Text.lines (Text.trim (s.getD "").toList)

def noteLast (note : List Char) : List (List Char) → List (List Char)
  | [] => []
  | [line] => [line ++ note]
  | line :: rest => line :: noteLast note rest

/-- Two groups of lines with an empty line between them if both have lines. -/
def paragraphs (first second : List (List Char)) : List (List Char) :=
  if first.isEmpty then second
  else if second.isEmpty then first
  else first ++ [] :: second

/-- The lines of the comment of an accessor, without its delimiters. -/
def commentLines (summary description : Option String) (polling : Bool) : List (List Char) :=
  let first := textLines summary
  let noted := if polling then noteLast " (long polling)".toList first else first
  paragraphs noted (textLines description)

def commentLine (line : List Char) : String :=
  String.ofList (Text.trimEnd (" * ".toList ++ escapeComment line))

/-- The comment of an accessor, line by line; none if there is nothing to say. -/
def docComment (summary description : Option String) (polling : Bool) : List String :=
  let lines := commentLines summary description polling
  if lines.isEmpty then [] else "/**" :: (lines.map commentLine ++ [" */"])

def oneLine (s : String) : List Char :=
  (Text.join " " ((Text.words s.toList).map String.ofList)).toList

def inlineComment (description : String) : String :=
  "/** " ++ String.ofList (escapeComment (oneLine description)) ++ " */"

end ApiBindings.Source
