import ApiBindings.Yaml.Document
import ApiBindings.Yaml.Scalar
import ApiBindings.Yaml.Tokens

/-!
# Reading YAML

The value of a YAML text.  A mapping may take in the entries of others under the key `<<`; they come
first, and its own entries replace theirs.  If several parts have no value, the one that is the
least deep in the text is reported, and of these the first.
-/

namespace ApiBindings.Yaml

/-! ## Faults by depth -/

abbrev AtDepth (α : Type) : Type := Except (Nat × Fault) α

def atDepth {α : Type} (depth : Nat) : Except Fault α → AtDepth α
  | .ok a => .ok a
  | .error fault => .error (depth, fault)

/-- Puts two values together; of two faults the one that is less deep counts, else the first. -/
def together {α β γ : Type} (f : α → β → γ) (x : AtDepth α) (y : AtDepth β) : AtDepth γ :=
  match x, y with
  | .ok a, .ok b => .ok (f a b)
  | .error e, .ok _ => .error e
  | .ok _, .error e => .error e
  | .error e, .error e' => .error (if e'.1 < e.1 then e' else e)

/-! ## Mappings -/

def Node.tag : Node → Tag
  | .scalar tag _ => tag
  | .sequence tag _ => tag
  | .mapping tag _ => tag

def Node.asKey : Node → Node
  | .scalar .default text => .scalar .str text
  | .sequence .default items => .sequence .str items
  | .mapping .default entries => .mapping .str entries
  | n => n

mutual

/-- The entries of a mapping after those that it takes in. -/
def mergedEntries : List (Node × Node) → Except Fault (List (Node × Node) × List (Node × Node))
  | [] => .ok ([], [])
  | (key, value) :: rest =>
    if key.tag = .merge then do
      let taken ← takenEntries value
      let (others, own) ← mergedEntries rest
      return (taken ++ others, own)
    else do
      let (taken, own) ← mergedEntries rest
      return (taken, (key.asKey, value) :: own)
termination_by structural entries => entries

def takenEntries : Node → Except Fault (List (Node × Node))
  | .mapping _ entries => (mergedEntries entries).map fun (taken, own) => taken ++ own
  | .sequence _ items => takenFromAll items
  | .scalar _ _ => .error .syntaxError
termination_by structural n => n

/-- The entries that a mapping takes in from a list of mappings, those of the last one first. -/
def takenFromAll : List Node → Except Fault (List (Node × Node))
  | [] => .ok []
  | item :: rest => do
    let first ← takenFromMapping item
    let others ← takenFromAll rest
    return others ++ first
termination_by structural items => items

def takenFromMapping : Node → Except Fault (List (Node × Node))
  | .mapping _ entries => (mergedEntries entries).map fun (taken, own) => taken ++ own
  | _ => .error .syntaxError
termination_by structural n => n

end

/-! ## Values -/

mutual

/-- The text of a node that has to be a scalar; a mapping has the text of its default value. -/
def scalarText? : Node → Option String
  | .scalar _ text => some text
  | .mapping _ entries => defaultText? entries
  | .sequence _ _ => none
termination_by structural n => n

def defaultText? : List (Node × Node) → Option String
  | [] => none
  | (key, value) :: rest =>
    if key.tag = .default then scalarText? value else defaultText? rest
termination_by structural entries => entries

end

def Node.atom (n : Node) : Except Fault Atom :=
  match scalarText? n with
  | some text => scalarValue n.tag text
  | none => .error .syntaxError

def Tag.isCollection : Tag → Bool
  | .orderedMap => true
  | .pairs => true
  | .set => true
  | .seq => true
  | .map => true
  | _ => false

/-- The value of a node, with fuel for its depth.  A collection at a depth has its parts one step
below. -/
def Node.valueAt : Nat → Nat → Node → AtDepth Value
  | 0, depth, _ => .error (depth, .syntaxError)
  | fuel + 1, depth, n =>
    if n.tag.isCollection then
      match n.tag, n with
      | .seq, .sequence _ items => (values fuel (depth + 1) items).map .list
      | .map, .mapping _ entries => (fieldsOf fuel (depth + 1) entries).map .map
      | .set, .mapping _ entries =>
        (fieldsOf fuel (depth + 1) entries).map fun fields => .set (fields.map (·.1))
      | .orderedMap, .sequence _ items => (pairs fuel (depth + 1) items).map .list
      | .pairs, .sequence _ items => (pairs fuel (depth + 1) items).map .list
      | _, _ => .error (depth + 1, .syntaxError)
    else (atDepth depth n.atom).map .atom
where
  /-- The values of items. -/
  values (fuel depth : Nat) : List Node → AtDepth (List Value)
    | [] => .ok []
    | item :: rest => together List.cons (Node.valueAt fuel depth item) (values fuel depth rest)
  /-- The entries of a mapping with the values of its keys, which are scalars. -/
  entries (fuel depth : Nat) : List (Node × Node) → AtDepth (List (Atom × Value))
    | [] => .ok []
    | (key, value) :: rest =>
      together List.cons
        (together Prod.mk
          (if key.tag.isCollection then .error (depth, .syntaxError) else atDepth depth key.atom)
          (Node.valueAt fuel depth value))
        (entries fuel depth rest)
  /-- The fields of a mapping. -/
  fieldsOf (fuel depth : Nat) (written : List (Node × Node)) : AtDepth Fields :=
    match mergedEntries written with
    | .error fault => .error (depth, fault)
    | .ok (taken, own) => (entries fuel depth (taken ++ own)).map Fields.ofEntries
  /-- The pairs of key and value of mappings that have one entry each. -/
  pairs (fuel depth : Nat) : List Node → AtDepth (List Value)
    | [] => .ok []
    | .mapping _ [(key, value)] :: rest =>
      together List.cons
        (together (fun a b => Value.list [a, b]) (Node.valueAt fuel depth key)
          (Node.valueAt fuel depth value))
        (pairs fuel depth rest)
    | _ :: _ => .error (depth, .syntaxError)

/-- The tokens of a text.  A character that may not stand in a text at all is reported before
anything else. -/
def checkedTokens (text : List Char) : Except Fault (List Token) :=
  if text.all isAllowed then tokens text else .error .syntaxError

def valueOf (ts : List Token) : Except Fault Value := do
  match ← Node.ofTokens? ts with
  | none => return .null
  | some n =>
    (n.valueAt ((unrolled + 1) * (ts.length + 2) + nestingLimit) 0).mapError (·.2)

end ApiBindings.Yaml
