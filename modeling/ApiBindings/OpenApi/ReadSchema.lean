import ApiBindings.OpenApi.Checked

/-!
# Reading schemas

A schema node is checked as deep as it goes, by structural recursion on the document value.  The
path of an issue below `additionalProperties` names the alternatives of that key; how they are named
depends on where the schema stands, so the name is a parameter.
-/

namespace ApiBindings

def Schema.keys : List String :=
  ["type", "enum", "items", "properties", "required", "additionalProperties", "allOf", "oneOf",
    "nullable"]

def loneAlternatives : String := "tagged-union[...,...]"

/-- The name of the alternatives of `additionalProperties` in a schema inside another object. -/
def nestedAlternatives : String := "tagged-union[Reference,...]"

def unlessNull {α : Type} (v : Value) (reading : Checked α) (key : String) : Checked (Given α) :=
  match v with
  | .atom .null => .ok .null
  | _ => (reading.map Given.value).at_ key

/-- Reads a truth value or, where it is none, something else; the issues of both are reported. -/
def readFlagOr {α : Type} (alternatives : String) (v : Value) (other : Checked α) :
    Checked (Additional α) :=
  match readBoolean v, other with
  | .ok b, _ => .ok (.flag b)
  | .error _, .ok a => .ok (.node a)
  | .error issues, .error more =>
    .error (issues.map (Issue.under "bool") ++ more.map (Issue.under alternatives))

/-- Reads a schema whose inner nodes were read before. -/
def Schema.ofParts (fields : Fields) (items : Checked (Given SchemaNode))
    (properties : Checked (Given (List (String × SchemaNode))))
    (additional : Checked (Given (Additional SchemaNode)))
    (allOf oneOf : Checked (Given (List SchemaNode))) : Checked Schema :=
  Schema.mk <$> optionalField readText fields "type" <*>
    optionalField (readList Checked.ok) fields "enum" <*> items <*> properties <*>
    optionalField (readList readText) fields "required" <*> additional <*> allOf <*> oneOf <*>
    optionalField readBoolean fields "nullable" <*>
    readExtras fields Schema.keys

namespace SchemaNode

variable (alternatives : String)

mutual

def read : Value → Checked SchemaNode
  | .map fields =>
    if Fields.has fields "$ref" then ((readReference fields).map Referable.ref).at_ "ref"
    else .at_ "other" (.map Referable.inline
      (Schema.ofParts fields (readItems fields) (readProperties fields) (readAdditional fields)
        (readMembers "allOf" fields) (readMembers "oneOf" fields)))
  | _ => .failAt "other" (.notObject "Schema")
termination_by structural v => v

/-- Reads the nodes of a list from the index `start` on. -/
def readFrom (start : Nat) : List Value → Checked (List SchemaNode)
  | [] => .ok []
  | v :: rest => List.cons <$> (read v).at_ (toString start) <*> readFrom (start + 1) rest
termination_by structural items => items

def readEntries : List (Atom × Value) → Checked (List (String × SchemaNode))
  | [] => .ok []
  | (key, v) :: rest =>
    List.cons <$> (Prod.mk <$> readKey key <*> (read v).at_ (keyLabel key)) <*> readEntries rest
termination_by structural fields => fields

def readAll : Value → Checked (List SchemaNode)
  | .list items => readFrom 0 items
  | .set members =>
    .all (members.zipIdx.map fun entry =>
      .at_ (toString entry.2) (.failAt "other" (.notObject "Schema")))
  | _ => .fail .notList
termination_by structural v => v

def readItems : List (Atom × Value) → Checked (Given SchemaNode)
  | [] => .ok .absent
  | (key, v) :: rest =>
    if key = .string "items" then unlessNull v (read v) "items" else readItems rest
termination_by structural fields => fields

/-- Reads the mapping under `properties`. -/
def readProperties : List (Atom × Value) → Checked (Given (List (String × SchemaNode)))
  | [] => .ok .absent
  | (key, v) :: rest =>
    if key = .string "properties" then unlessNull v (readMap v) "properties"
    else readProperties rest
termination_by structural fields => fields

/-- Reads the truth value or the node under `additionalProperties`. -/
def readAdditional : List (Atom × Value) → Checked (Given (Additional SchemaNode))
  | [] => .ok .absent
  | (key, v) :: rest =>
    if key = .string "additionalProperties" then
      unlessNull v (readFlagOr alternatives v (read v)) "additionalProperties"
    else readAdditional rest
termination_by structural fields => fields

/-- Reads the list of nodes under `allOf` or `oneOf`. -/
def readMembers (composition : String) : List (Atom × Value) → Checked (Given (List SchemaNode))
  | [] => .ok .absent
  | (key, v) :: rest =>
    if key = .string composition then unlessNull v (readAll v) composition
    else readMembers composition rest
termination_by structural fields => fields

/-- Reads a mapping of nodes; of two keys with one text the later gives the node. -/
def readMap : Value → Checked (List (String × SchemaNode))
  | .map fields => (readEntries fields).map mergeEntries
  | _ => .fail .notMapping
termination_by structural v => v

end

end SchemaNode

def Schema.read (alternatives : String) : Value → Checked Schema
  | .map fields =>
    Schema.ofParts fields (SchemaNode.readItems alternatives fields)
      (SchemaNode.readProperties alternatives fields)
      (SchemaNode.readAdditional alternatives fields)
      (SchemaNode.readMembers alternatives "allOf" fields)
      (SchemaNode.readMembers alternatives "oneOf" fields)
  | _ => .fail (.notObject "Schema")

end ApiBindings
