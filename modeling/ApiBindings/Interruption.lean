import ApiBindings.Failure
import ApiBindings.Files.System
import ApiBindings.Swagger.Conversion
import ApiBindings.Yaml.Cursor

/-!
# Interruptions

A run stops with a failure that is told to the user, or it breaks down on an input that nothing was
provided for.
-/

namespace ApiBindings

/-- An input that nothing was provided for. -/
inductive Breakdown where
  /-- A raw value has not the form that its conversion needs. -/
  | malformed (m : Malformed)
  /-- A file holds no text in UTF-8. -/
  | undecodable
  /-- A file that has to be read or looked for cannot be. -/
  | unreadable (fault : FileFault)
  /-- A YAML text cannot be read. -/
  | yaml (fault : Yaml.Fault)
  /-- An integer has too many digits to be read or shown. -/
  | longInteger
  /-- A TOML text cannot be read. -/
  | toml
  /-- A key at the top of a configuration is no text, or an option there cannot be used. -/
  | unnamedSetting
  /-- A text for the terminal closes a style that is not open. -/
  | markup
  /-- A value or a schema is nested too deep. -/
  | tooDeep
  /-- A text is no address that can be asked. -/
  | address
  /-- A reference cannot be cut into its parts. -/
  | reference
  /-- A host name cannot be shown. -/
  | hostName (fault : Web.Host.Fault)
  /-- A text that is sent holds characters beyond ASCII. -/
  | unencodable
  /-- A reply cannot be read in its character set. -/
  | unreadableReply
deriving DecidableEq, Repr

/-- Why a run does not come to its end. -/
inductive Interruption where
  | failure (f : Failure)
  | breakdown (b : Breakdown)

abbrev Attempt (α : Type) : Type := Except Interruption α

namespace Attempt

def fail {α : Type} (f : Failure) : Attempt α := .error (.failure f)

def breakDown {α : Type} (b : Breakdown) : Attempt α := .error (.breakdown b)

def ofFailure {α : Type} (x : Except Failure α) : Attempt α := x.mapError .failure

def ofRaw {α : Type} (x : Except Malformed α) : Attempt α :=
  x.mapError fun m => .breakdown (.malformed m)

end Attempt

end ApiBindings
