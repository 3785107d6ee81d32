import ApiBindings.CommandLine.Run

/-!
# The program

Looks at the files that a command may need, runs the command on them, and then prints its lines and
writes the files that are new or changed.
-/

namespace ApiBindings

open CommandLine

def placeText (place : List String) : String := "/" ++ Text.join "/" place

def workingPlace : IO (List String) := do
  return (Path.ofText (← IO.currentDir).toString).names

def nodeOnDisk? (place : List String) : IO (Option FileNode) := do
  let file := (← IO.currentDir) / placeText place
  if ← file.isDir then return some .directory
  else if ← file.pathExists then return some (.file (← IO.FS.readBinFile file))
  else return none

/-- Looks at everything on the way of a path. -/
def lookAt (fs : FileSystem) (p : Path) : IO FileSystem := do
  let mut fs := fs
  for n in List.range (p.names.length + 1) do
    match fs.place ⟨p.root, p.names.take n⟩ with
    | .error _ => return fs
    | .ok place =>
      if (fs.node? place).isNone then
        match ← nodeOnDisk? place with
        | some node => fs := fs.put place node
        | none => return fs
  return fs

def lookAtAll (fs : FileSystem) (paths : List String) : IO FileSystem :=
  paths.foldlM (fun fs path => lookAt fs (Path.ofText path)) fs

/-- Brings what is new or changed to the disk. -/
def store (before after : FileSystem) : IO Unit := do
  for (place, node) in after.nodes do
    if before.node? place ≠ some node then
      match node with
      | .directory => IO.FS.createDir (placeText place)
      | .file content => IO.FS.writeBinFile (placeText place) content

def unreachableWeb : Web := ⟨[], .unreachable "the web cannot be reached", true⟩

/-- Runs the command of the arguments in the working directory. -/
def runArguments (args : List String) : IO UInt32 := do
  let command := Command.ofArguments args
  let home ← workingPlace
  let start : FileSystem :=
    ⟨(List.range home.length).map fun n => (home.take (n + 1), .directory), home⟩
  let known ← lookAtAll start command.configurationPaths
  let jobs := command.jobs known
  let before ← lookAtAll known (jobs.flatMap fun j => [j.source, j.output])
  let result := command.run unreachableWeb before
  for text in result.printed do IO.println text
  store before result.files
  return UInt32.ofNat result.ending.code

end ApiBindings

def main (args : List String) : IO UInt32 := ApiBindings.runArguments args
