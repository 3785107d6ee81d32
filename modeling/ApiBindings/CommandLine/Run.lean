import ApiBindings.CommandLine.Arguments
import ApiBindings.CommandLine.Markup
import ApiBindings.Configuration.Lookup
import ApiBindings.Session

/-!
# Running commands

A command prints lines and writes files.  The jobs of a configuration are carried out one after the
other; the first that fails ends the run, and what was written before it stays.
-/

namespace ApiBindings.CommandLine

/-- How a command ends. -/
inductive Ending where
  | done
  | failed
  | misused
  | broken (b : Breakdown)
deriving DecidableEq, Repr

def Ending.code : Ending → Nat
  | done => 0
  | failed => 1
  | misused => 2
  | broken _ => 1

/-- What a command leaves: the texts it printed, how it ended, and the files. -/
structure Result where
  printed : List String
  ending : Ending
  files : FileSystem

namespace Result

def print (text : String) (files : FileSystem) (next : Result) : Result :=
  match shown? text with
  | some s => { next with printed := s :: next.printed }
  | none => ⟨[], .broken .markup, files⟩

def finish (ending : Ending) (files : FileSystem) : Result := ⟨[], ending, files⟩

/-- Tells an interruption: a failure is printed, a breakdown is not. -/
def interrupted (e : Interruption) (files : FileSystem) : Result :=
  match e with
  | .failure f => print ("[red]Error:[/red] " ++ f.message) files (finish .failed files)
  | .breakdown b => finish (.broken b) files

end Result

def progressText (j : Job) : String :=
  "[progress.description]Generating components for " ++ j.source ++ "..."

def successText (j : Job) : String :=
  "[green]Successfully generated code for " ++ j.source ++ "[/green]"

/-- Carries out jobs one after the other. -/
def runJobs (web : Web) : List Job → FileSystem → Result
  | [], files => .finish .done files
  | j :: rest, files =>
    match shown? (progressText j) with
    | none => .finish (.broken .markup) files
    | some _ =>
      match Session.run { job := j } ⟨files, web⟩ with
      | (.error e, _, files) => .interrupted e files
      | (.ok _, _, files) =>
        .print (successText j) files (.print ("  - " ++ j.output) files (runJobs web rest files))

/-- The jobs that a request names: a single one if there are a source and an output, otherwise
those of the configuration.  Only one of the two is a misuse. -/
def Request.jobs (r : Request) (files : FileSystem) : Option (Attempt (List Job)) :=
  match givenText? r.file, givenText? r.output with
  | some source, some output =>
    some (.ok [{ source := source, output := output, hooks := r.hooks }])
  | none, none => some ((Configuration.find files r.config).map Configuration.jobs)
  | _, _ => none

def programVersion : String := "0.1.0"

def Command.run (c : Command) (web : Web) (files : FileSystem) : Result :=
  match c with
  | .misuse => .finish .misused files
  | .help => .finish .done files
  | .version =>
    .print ("restfulgen version: " ++ programVersion) files (.finish .done files)
  | .generate r =>
    match r.jobs files with
    | none => .finish .misused files
    | some (.error e) => .interrupted e files
    | some (.ok jobs) => runJobs web jobs files

/-! ## What a command looks at -/

def Command.configurationPaths : Command → List String
  | .generate r =>
    match givenText? r.config with
    | some path => [path]
    | none => Configuration.usualNames ++ [Configuration.projectName]
  | _ => []

/-- The jobs of a command, none if they cannot be told. -/
def Command.jobs (c : Command) (files : FileSystem) : List Job :=
  match c with
  | .generate r =>
    match r.jobs files with
    | some (.ok jobs) => jobs
    | _ => []
  | _ => []

end ApiBindings.CommandLine
