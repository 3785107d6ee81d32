import ApiBindings.Failure
import ApiBindings.Files.Path

/-!
# Files

A file system holds files and directories at places, which are lists of names from its root.  A path
from the working directory starts at the place called home.
-/

namespace ApiBindings

/-- What stands at a place. -/
inductive FileNode where
  | file (content : ByteArray)
  | directory

instance : DecidableEq FileNode
  | .directory, .directory => isTrue rfl
  | .file _, .directory => isFalse (by simp)
  | .directory, .file _ => isFalse (by simp)
  | .file content, .file other =>
    match ByteArray.instDecidableEq content other with
    | isTrue h => isTrue (by rw [h])
    | isFalse h => isFalse fun e => h (FileNode.file.inj e)

/-- Files and directories by their places. -/
structure FileSystem where
  nodes : List (List String × FileNode)
  home : List String

namespace FileSystem

/-- What stands at a place; the root is a directory. -/
def node? (fs : FileSystem) (place : List String) : Option FileNode :=
  if place = [] then some .directory else fs.nodes.lookup place

/-- Writes a node at a place, in the position of the one that stood there. -/
def putNode (place : List String) (node : FileNode) :
    List (List String × FileNode) → List (List String × FileNode)
  | [] => [(place, node)]
  | (k, n) :: rest => if k = place then (k, node) :: rest else (k, n) :: putNode place node rest

def put (fs : FileSystem) (place : List String) (node : FileNode) : FileSystem :=
  { fs with nodes := putNode place node fs.nodes }

theorem lookup_putNode (place other : List String) (node : FileNode)
    (nodes : List (List String × FileNode)) :
    (putNode place node nodes).lookup other =
      if other = place then some node else nodes.lookup other := by
  induction nodes with
  | nil =>
    by_cases h : other = place
    · simp [putNode, h]
    · simp [putNode, List.lookup_cons, h, beq_false_of_ne h]
  | cons entry rest ih =>
    obtain ⟨k, n⟩ := entry
    by_cases hk : k = place
    · subst hk
      by_cases h : other = k
      · simp [putNode, h]
      · simp [putNode, List.lookup_cons, h, beq_false_of_ne h]
    · by_cases h : other = k
      · subst h; simp [putNode, hk]
      · simp [putNode, hk, List.lookup_cons, beq_false_of_ne h, ih]

/-- Putting a node changes one place only. -/
theorem node?_put (fs : FileSystem) (place other : List String) (node : FileNode)
    (h : place ≠ []) :
    (fs.put place node).node? other = if other = place then some node else fs.node? other := by
  by_cases ho : other = []
  · subst ho; simp [node?, Ne.symm h]
  · simp [node?, put, ho, lookup_putNode]

/-! ## Ways -/

/-- The place that names lead to from a place.  What is left through a name has to be a directory;
whether something stands at the end of the way is left open. -/
def walk (fs : FileSystem) : List String → List String → Except FileFault (List String)
  | place, [] => .ok place
  | place, name :: rest =>
    match fs.node? place with
    | none => .error .missing
    | some (.file _) => .error .notDirectory
    | some .directory => walk fs (if name = ".." then place.dropLast else place ++ [name]) rest

def place (fs : FileSystem) (p : Path) : Except FileFault (List String) :=
  fs.walk (if p.root = "" then fs.home else []) p.names

def find (fs : FileSystem) (p : Path) : Except FileFault FileNode :=
  match fs.place p with
  | .error fault => .error fault
  | .ok place =>
    match fs.node? place with
    | some node => .ok node
    | none => .error .missing

def leadsSomewhere (fs : FileSystem) (p : Path) : Bool := (fs.find p).isOk

/-! ## Names -/

def maxNameBytes : Nat := 255

def maxPathBytes : Nat := 4095

/-- whether a way from a place comes to a directory in which the next name is too long -/
def meetsLongName (fs : FileSystem) : List String → List String → Bool
  | _, [] => false
  | place, name :: rest =>
    match fs.node? place with
    | some .directory =>
      decide (maxNameBytes < name.utf8ByteSize) ||
        meetsLongName fs (if name = ".." then place.dropLast else place ++ [name]) rest
    | _ => false

/-- whether a path is not followed at all, since it or a name on its way is too long -/
def refuses (fs : FileSystem) (p : Path) : Bool :=
  decide (maxPathBytes < p.text.utf8ByteSize) ||
    fs.meetsLongName (if p.root = "" then fs.home else []) p.names

def isDirectory (fs : FileSystem) (p : Path) : Bool :=
  match fs.find p with
  | .ok .directory => true
  | _ => false

/-! ## Reading -/

/-- Why there is no text to be read. -/
inductive Unreadable where
  | fault (f : FileFault)
  | undecodable
deriving DecidableEq, Repr

def unixLines : List Char → List Char
  | [] => []
  | '\r' :: '\n' :: rest => '\n' :: unixLines rest
  | '\r' :: rest => '\n' :: unixLines rest
  | c :: rest => c :: unixLines rest

def readBytes (fs : FileSystem) (p : Path) : Except FileFault ByteArray :=
  match fs.find p with
  | .error fault => .error fault
  | .ok .directory => .error .isDirectory
  | .ok (.file content) => .ok content

/-- The text of a file in UTF-8. -/
def readText (fs : FileSystem) (p : Path) : Except Unreadable (List Char) :=
  match fs.readBytes p with
  | .error fault => .error (.fault fault)
  | .ok content =>
    match String.fromUTF8? content with
    | some s => .ok (unixLines s.toList)
    | none => .error .undecodable

end FileSystem

end ApiBindings
