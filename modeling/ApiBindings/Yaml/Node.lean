import ApiBindings.Text.Basic
import ApiBindings.Yaml.Token

/-!
# Nodes of a YAML text

A node is a scalar, a sequence or a mapping with its tag.  A plain scalar without a tag has the one
that its text suggests, so nothing of the style is left in a node.
-/

namespace ApiBindings.Yaml

/-- The tags that values are made of, and all others. -/
inductive Tag where
  | null
  | bool
  | int
  | float
  | binary
  | timestamp
  | orderedMap
  | pairs
  | set
  | str
  | seq
  | map
  | merge
  | default
  | other (name : String)
deriving DecidableEq, Repr

def standardPrefix : String := "tag:yaml.org,2002:"

def standardTags : List (String × Tag) :=
  [("null", .null), ("bool", .bool), ("int", .int), ("float", .float), ("binary", .binary),
    ("timestamp", .timestamp), ("omap", .orderedMap), ("pairs", .pairs), ("set", .set),
    ("str", .str), ("seq", .seq), ("map", .map), ("merge", .merge), ("value", .default)]

def Tag.ofName (name : String) : Tag :=
  match (Text.dropStart? standardPrefix name).bind fun rest => standardTags.lookup rest with
  | some tag => tag
  | none => .other name

inductive Node where
  | scalar (tag : Tag) (text : String)
  | sequence (tag : Tag) (items : List Node)
  | mapping (tag : Tag) (entries : List (Node × Node))
deriving Repr

instance : Inhabited Node := ⟨.scalar .null ""⟩

end ApiBindings.Yaml
