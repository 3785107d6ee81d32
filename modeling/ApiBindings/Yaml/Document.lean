import ApiBindings.Document.Extent
import ApiBindings.Yaml.PlainTag
import ApiBindings.Yaml.Tokens

/-!
# The node of a YAML text

The tokens of a text are put together to a single node.  An alias stands for the node that its
anchor names.  A node that is part of itself has no end; it is written out a few times, deeper than
settings are looked at, and then goes on deeper than anything can be gone through.
-/

namespace ApiBindings.Yaml

/-- What is still to be read, the anchors so far, and what the tag handles stand for.  The node of
an anchor is missing while it is being read; until then an alias stands for the node that the anchor
had in an earlier pass over the text. -/
structure Parse where
  tokens : List Token
  anchors : List (String × Option Node)
  handles : List (String × String)
  earlier : List (String × Node)

def emptyNode : Node := .scalar .null ""

def nestedLists : Nat → Node
  | 0 => emptyNode
  | n + 1 => .sequence .seq [nestedLists n]

def bottomless : Node := nestedLists (nestingLimit + 1)

/-- The properties in front of a node. -/
structure Properties where
  anchor : Option String
  tag : Option WrittenTag

namespace Parse

def skip (p : Parse) : Parse := { p with tokens := p.tokens.tail }

def atAny (ts : List Token) (p : Parse) : Bool :=
  match p.tokens with
  | t :: _ => ts.contains t
  | [] => false

/-- The full name of a tag, none for a tag that is left to the text. -/
def tagName (p : Parse) : Option WrittenTag → Except Fault (Option String)
  | none => .ok none
  | some ⟨none, suffix⟩ => .ok (some suffix)
  | some ⟨some handle, suffix⟩ =>
    match p.handles.lookup handle with
    | some start => .ok (some (start ++ suffix))
    | none => .error .syntaxError

/-- Reads the properties of a node, in any order. -/
def properties (p : Parse) : Properties × Parse :=
  match p.tokens with
  | .anchor name :: .tag t :: rest => (⟨some name, some t⟩, { p with tokens := rest })
  | .tag t :: .anchor name :: rest => (⟨some name, some t⟩, { p with tokens := rest })
  | .anchor name :: rest => (⟨some name, none⟩, { p with tokens := rest })
  | .tag t :: rest => (⟨none, some t⟩, { p with tokens := rest })
  | _ => (⟨none, none⟩, p)

/-- Makes an anchor known; it must be new. -/
def openAnchor (anchor : Option String) (p : Parse) : Except Fault Parse :=
  match anchor with
  | none => .ok p
  | some name =>
    if p.anchors.any fun entry => entry.1 == name then .error .syntaxError
    else .ok { p with anchors := (name, none) :: p.anchors }

def closeAnchor (anchor : Option String) (node : Node) (p : Parse) : Parse :=
  match anchor with
  | none => p
  | some name =>
    { p with anchors := p.anchors.map fun entry =>
        if entry.1 == name then (name, some node) else entry }

def aliased (name : String) (p : Parse) : Except Fault Node :=
  match p.anchors.lookup name with
  | some (some node) => .ok node
  | some none => .ok ((p.earlier.lookup name).getD bottomless)
  | none => .error .syntaxError

end Parse

def collectionTag (tag : Option String) (usual : Tag) : Tag :=
  match tag with
  | some name => if name = "!" then usual else .ofName name
  | none => usual

def scalarTag (tag : Option String) (plain : Bool) (text : String) : Tag :=
  match tag with
  | some name => if name = "!" then plainTag text else .ofName name
  | none => if plain then plainTag text else .str

/-! ## Nodes

Every call reads a token or is made by one that did, so fuel of four times the number of tokens is
never used up. -/

mutual

/-- Reads a node.  Inside flow collections there are no blocks; the value of a mapping may be a
sequence that is not indented. -/
def node : Nat → (block indentless : Bool) → Parse → Except Fault (Node × Parse)
  | 0, _, _, _ => .error .syntaxError
  | fuel + 1, block, indentless, p =>
    match p.tokens with
    | .alias_ name :: _ => (p.aliased name).map fun n => (n, p.skip)
    | _ => do
      let (props, p) := p.properties
      let tag ← p.tagName props.tag
      let p ← p.openAnchor props.anchor
      let (n, p) ← content fuel block indentless tag (props.anchor.isSome || tag.isSome) p
      return (n, p.closeAnchor props.anchor n)

/-- Reads a node behind its properties; without any, something has to be written. -/
def content : Nat → (block indentless : Bool) → Option String → (optional : Bool) → Parse →
    Except Fault (Node × Parse)
  | 0, _, _, _, _, _ => .error .syntaxError
  | fuel + 1, block, indentless, tag, optional, p =>
    match p.tokens, block, indentless with
    | .blockEntry :: _, _, true => do
      let (items, p) ← indentlessItems fuel p
      return (.sequence (collectionTag tag .seq) items, p)
    | .scalar plain text :: _, _, _ => .ok (.scalar (scalarTag tag plain text) text, p.skip)
    | .flowSequenceStart :: _, _, _ => do
      let (items, p) ← flowItems fuel true p.skip
      return (.sequence (collectionTag tag .seq) items, p)
    | .flowMappingStart :: _, _, _ => do
      let (entries, p) ← flowEntries fuel true p.skip
      return (.mapping (collectionTag tag .map) entries, p)
    | .blockSequenceStart :: _, true, _ => do
      let (items, p) ← blockItems fuel p.skip
      return (.sequence (collectionTag tag .seq) items, p)
    | .blockMappingStart :: _, true, _ => do
      let (entries, p) ← blockEntries fuel p.skip
      return (.mapping (collectionTag tag .map) entries, p)
    | _, _, _ =>
      if optional then .ok (.scalar (scalarTag tag true "") "", p) else .error .syntaxError

/-- Reads a node unless one of some tokens comes next. -/
def nodeUnless : Nat → List Token → (block : Bool) → Parse → Except Fault (Node × Parse)
  | 0, _, _, _ => .error .syntaxError
  | fuel + 1, stops, block, p =>
    if p.atAny stops then .ok (emptyNode, p) else node fuel block block p

/-- Reads the entries of a sequence in a block. -/
def blockItems : Nat → Parse → Except Fault (List Node × Parse)
  | 0, _ => .error .syntaxError
  | fuel + 1, p =>
    match p.tokens with
    | .blockEntry :: _ => do
      let (item, p) ←
        if p.skip.atAny [.blockEntry, .blockEnd] then pure (emptyNode, p.skip)
        else node fuel true false p.skip
      let (items, p) ← blockItems fuel p
      return (item :: items, p)
    | .blockEnd :: _ => .ok ([], p.skip)
    | _ => .error .syntaxError

/-- Reads the entries of a sequence that is not indented. -/
def indentlessItems : Nat → Parse → Except Fault (List Node × Parse)
  | 0, _ => .error .syntaxError
  | fuel + 1, p =>
    match p.tokens with
    | .blockEntry :: _ => do
      let (item, p) ←
        if p.skip.atAny [.blockEntry, .key, .value, .blockEnd] then pure (emptyNode, p.skip)
        else node fuel true false p.skip
      let (items, p) ← indentlessItems fuel p
      return (item :: items, p)
    | _ => .ok ([], p)

/-- Reads the entries of a mapping in a block. -/
def blockEntries : Nat → Parse → Except Fault (List (Node × Node) × Parse)
  | 0, _ => .error .syntaxError
  | fuel + 1, p =>
    match p.tokens with
    | .key :: _ => do
      let (key, p) ← nodeUnless fuel [.key, .value, .blockEnd] true p.skip
      let (value, p) ←
        if p.atAny [.value] then nodeUnless fuel [.key, .value, .blockEnd] true p.skip
        else pure (emptyNode, p)
      let (entries, p) ← blockEntries fuel p
      return ((key, value) :: entries, p)
    | .blockEnd :: _ => .ok ([], p.skip)
    | _ => .error .syntaxError

/-- Reads the entries of a sequence in brackets; all but the first come after a comma. -/
def flowItems : Nat → (first : Bool) → Parse → Except Fault (List Node × Parse)
  | 0, _, _ => .error .syntaxError
  | fuel + 1, first, p =>
    if p.atAny [.flowSequenceEnd] then .ok ([], p.skip)
    else if !first && !p.atAny [.flowEntry] then .error .syntaxError
    else
      let p := if first then p else p.skip
      match p.tokens with
      | .flowSequenceEnd :: _ => .ok ([], p.skip)
      | .key :: _ => do
        let (key, p) ← nodeUnless fuel [.value, .flowEntry, .flowSequenceEnd] false p.skip
        let (value, p) ←
          if p.atAny [.value] then nodeUnless fuel [.flowEntry, .flowSequenceEnd] false p.skip
          else pure (emptyNode, p)
        let (items, p) ← flowItems fuel false p
        return (.mapping .map [(key, value)] :: items, p)
      | _ => do
        let (item, p) ← node fuel false false p
        let (items, p) ← flowItems fuel false p
        return (item :: items, p)

/-- Reads the entries of a mapping in braces; all but the first come after a comma. -/
def flowEntries : Nat → (first : Bool) → Parse → Except Fault (List (Node × Node) × Parse)
  | 0, _, _ => .error .syntaxError
  | fuel + 1, first, p =>
    if p.atAny [.flowMappingEnd] then .ok ([], p.skip)
    else if !first && !p.atAny [.flowEntry] then .error .syntaxError
    else
      let p := if first then p else p.skip
      match p.tokens with
      | .flowMappingEnd :: _ => .ok ([], p.skip)
      | .key :: _ => do
        let (key, p) ← nodeUnless fuel [.value, .flowEntry, .flowMappingEnd] false p.skip
        let (value, p) ←
          if p.atAny [.value] then nodeUnless fuel [.flowEntry, .flowMappingEnd] false p.skip
          else pure (emptyNode, p)
        let (entries, p) ← flowEntries fuel false p
        return ((key, value) :: entries, p)
      | _ => do
        let (key, p) ← node fuel false false p
        let (entries, p) ← flowEntries fuel false p
        return ((key, emptyNode) :: entries, p)

end

/-! ## Nesting -/

/-- How much deeper what follows a token is. -/
def Token.descent : Token → Int
  | .blockSequenceStart | .blockMappingStart | .flowSequenceStart | .flowMappingStart => 1
  | .blockEnd | .flowSequenceEnd | .flowMappingEnd => -1
  | _ => 0

/-- How deep the collections are nested in a text.  An alias is not deep, whatever it stands for. -/
def nesting (tokens : List Token) : Nat :=
  let levels := tokens.scanl (fun level t => level + t.descent) 0
  (levels.foldl max 0).toNat

/-! ## Documents -/

def usualHandles : List (String × String) := [("!", "!"), ("!!", standardPrefix)]

/-- Takes in the directives at the head of a document.  There is one version at most, the first
one, and every handle is defined once. -/
def directives : (versioned : Bool) → List (String × String) → List Token →
    Except Fault (List (String × String) × List Token)
  | versioned, handles, .directive d :: rest =>
    match d with
    | .version major =>
      if versioned || major != 1 then .error .syntaxError else directives true handles rest
    | .tag handle start =>
      if handles.any fun entry => entry.1 == handle then .error .syntaxError
      else directives versioned ((handle, start) :: handles) rest
    | .other => directives versioned handles rest
  | _, handles, tokens => .ok (handles, tokens)

def isFinished (tokens : List Token) : Bool := tokens.all (· == .documentEnd)

/-- Reads the node of a document up to the end of the text, and the nodes of its anchors. -/
def pass (handles : List (String × String)) (tokens : List Token) (earlier : List (String × Node)) :
    Except Fault (Node × List (String × Node)) := do
  let (n, p) ← node (4 * tokens.length + 4) true false ⟨tokens, [], handles, earlier⟩
  if isFinished p.tokens then
    return (n, p.anchors.filterMap fun (name, node) => node.map fun n => (name, n))
  else throw .syntaxError

/-- Reads the node of a document in several passes, each with the anchors of the one before. -/
def passes (handles : List (String × String)) (tokens : List Token) :
    Nat → List (String × Node) → Except Fault Node
  | 0, earlier => (pass handles tokens earlier).map (·.1)
  | n + 1, earlier => do
    let (_, anchors) ← pass handles tokens earlier
    passes handles tokens n anchors

/-- How often a node is written out inside of itself. -/
def unrolled : Nat := 4

def isAlias : Token → Bool
  | .alias_ _ => true
  | _ => false

/-- Reads the node of a document.  One pass is enough if there are no aliases. -/
def wholeNode (handles : List (String × String)) (tokens : List Token) : Except Fault Node :=
  passes handles tokens (if tokens.any isAlias then unrolled else 0) []

/-- The node of a text, none for an empty one.  A text has a single document. -/
def Node.ofTokens? (tokens : List Token) : Except Fault (Option Node) :=
  match tokens with
  | [] => .ok none
  | .directive d :: rest => explicit (.directive d :: rest)
  | .documentStart :: rest => explicit (.documentStart :: rest)
  | _ => (wholeNode usualHandles tokens).map some
where
  /-- Reads a document with a marker for its start. -/
  explicit (tokens : List Token) : Except Fault (Option Node) := do
    let (handles, rest) ← directives false [] tokens
    match rest with
    | .documentStart :: content =>
      if isFinished content then return some emptyNode
      else (wholeNode (handles ++ usualHandles) content).map some
    | _ => throw .syntaxError

end ApiBindings.Yaml
