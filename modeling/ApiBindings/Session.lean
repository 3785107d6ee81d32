import ApiBindings.Configuration.Basic
import ApiBindings.Files.Writing
import ApiBindings.Loading

/-!
# Sessions

A session carries out one job.  It loads the description once and keeps it; the output is written
only when the whole text is there.
-/

namespace ApiBindings

/-- A job under way: the description that was loaded, and the loader. -/
structure Session where
  job : Job
  description : Option Description := none
  loader : Loader := {}

/-- Writes a text at an output; returns the path that was written. -/
def writeOutput (fs : FileSystem) (output content : String) : Attempt String × FileSystem :=
  match (writeText (Path.ofText output) content).run.run fs with
  | (.ok path, fs) => (.ok path, fs)
  | (.error e, fs) => (.fail (.notWritten output (some (.file e.fault e.path.text))), fs)

namespace Session

/-- Loads the description anew; a failure leaves the one that is there. -/
def load (s : Session) (sources : Sources) : Attempt Description × Session :=
  match s.loader.load sources s.job.source with
  | (.ok d, loader) => (.ok d, { s with description := some d, loader := loader })
  | (.error e, loader) => (.error e, { s with loader := loader })

def ensureLoaded (s : Session) (sources : Sources) : Attempt Description × Session :=
  match s.description with
  | some d => (.ok d, s)
  | none => s.load sources

def text (s : Session) (sources : Sources) : Attempt String × Session :=
  match s.ensureLoaded sources with
  | (.ok d, s) => (.ofFailure (d.generate s.job.options s.job.includeResponses), s)
  | (.error e, s) => (.error e, s)

/-- Carries out the job: returns the path of the file and the files after it is written. -/
def run (s : Session) (sources : Sources) : Attempt String × Session × FileSystem :=
  match s.text sources with
  | (.ok content, s) =>
    let (result, files) := writeOutput sources.files s.job.output content
    (result, s, files)
  | (.error e, s) => (.error e, s, sources.files)

def forget (s : Session) : Session := { s with description := none }

end Session

end ApiBindings
