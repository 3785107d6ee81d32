import ApiBindings.Document.Value
import ApiBindings.Text.Basic

/-!
# Converting schemas

Schemas are nearly the same in both versions.  Pointers move under the components, a file is a
binary string, and a discriminator becomes an object.  The conversion goes through all of a value,
since a schema can hold schemas anywhere.
-/

namespace ApiBindings.Swagger

def movedPlaces : List (String × String) :=
  [("#/definitions/", "#/components/schemas/"), ("#/parameters/", "#/components/parameters/"),
    ("#/responses/", "#/components/responses/")]

def movePointer (target : String) : String :=
  ((movedPlaces.findSome? fun place =>
    (Text.dropStart? place.1 target).map fun name => place.2 ++ name)).getD target

/-- What becomes of an entry whose value was converted to `converted`. -/
def convertEntry (key : Atom) (value converted : Value) : List (Atom × Value) :=
  match key, value with
  | .string "$ref", .atom (.string target) => [(key, .text (movePointer target))]
  | .string "type", .atom (.string "file") =>
    [(key, .text "string"), (.string "format", .text "binary")]
  | .string "discriminator", .atom (.string name) =>
    [(key, .object [("propertyName", .text name)])]
  | _, _ => [(key, converted)]

mutual

def convertSchema : Value → Value
  | .list items => .list (convertItems items)
  | .map fields => .map (Fields.ofEntries (convertEntries fields))
  | v => v
termination_by structural v => v

def convertItems : List Value → List Value
  | [] => []
  | v :: rest => convertSchema v :: convertItems rest
termination_by structural items => items

def convertEntries : List (Atom × Value) → List (Atom × Value)
  | [] => []
  | (key, v) :: rest => convertEntry key v (convertSchema v) ++ convertEntries rest
termination_by structural fields => fields

end

end ApiBindings.Swagger
