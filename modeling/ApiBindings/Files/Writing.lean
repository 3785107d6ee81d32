import ApiBindings.Files.System

/-!
# Writing files

A file is written together with the directories above it that are missing.  What was made before a
fault stays.
-/

namespace ApiBindings

/-- A fault and the path that was asked for. -/
structure FileError where
  fault : FileFault
  path : Path
deriving DecidableEq, Repr

/-- A change of a file system, which may stop half way. -/
abbrev FileAction (α : Type) : Type := ExceptT FileError (StateM FileSystem) α

namespace FileSystem

def withDirectory (fs : FileSystem) (p : Path) : Except FileFault FileSystem :=
  match fs.place p with
  | .error fault => .error fault
  | .ok place =>
    match fs.node? place with
    | some _ => .error .exists_
    | none => .ok (fs.put place .directory)

/-- The file system after a file is written, which is no directory yet. -/
def withFile (fs : FileSystem) (p : Path) (content : ByteArray) : Except FileFault FileSystem :=
  match fs.place p with
  | .error fault => .error fault
  | .ok place =>
    match fs.node? place with
    | some .directory => .error .isDirectory
    | _ => .ok (fs.put place (.file content))

def change (p : Path) (step : FileSystem → Except FileFault FileSystem) : FileAction Unit := do
  match step (← get) with
  | .ok fs => set fs
  | .error fault => throw ⟨fault, p⟩

/-- Makes a directory; any fault is well if there is one. -/
def ensureDirectory (p : Path) : FileAction Unit := do
  match (← get).withDirectory p with
  | .ok fs => set fs
  | .error fault => if (← get).isDirectory p then return () else throw ⟨fault, p⟩

/-- Makes a directory and at most `n` missing ones above it. -/
def ensureDirectories : Nat → Path → FileAction Unit
  | 0, p => ensureDirectory p
  | n + 1, p => do
    match (← get).withDirectory p with
    | .error .missing =>
      ensureDirectories n p.parent
      ensureDirectory p
    | _ => ensureDirectory p

end FileSystem

/-- Writes a text as a file, with the directories above it, and returns the path. -/
def writeText (p : Path) (content : String) : FileAction String := do
  FileSystem.ensureDirectories p.parent.names.length p.parent
  FileSystem.change p fun fs => fs.withFile p content.toUTF8
  return p.text

end ApiBindings
