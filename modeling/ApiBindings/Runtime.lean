import ApiBindings.Configuration.Settings
import ApiBindings.Document.Extent
import ApiBindings.Interruption
import ApiBindings.Json.Reader
import ApiBindings.Swagger.Shown
import ApiBindings.Toml.Reader
import ApiBindings.Yaml.Reader

/-!
# Runtimes

What a program runs on: the parsers that it calls, the way in which settings are gathered, and a
machine on which a value can be too deep to be gone through, or an integer too long to be shown.
-/

namespace ApiBindings

/-- What keeps a parser from giving a value: an error in the text, which it tells, or a
breakdown. -/
inductive ParserStop (ε : Type) where
  | told (e : ε)
  | breakdown (b : Breakdown)

/-- Parsers, the gathering of settings, and what keeps a value from being shown or a document from
being converted.  Nothing does with a value of ordinary extent.  Settings with plain names are
gathered as they are, and those without names are not. -/
structure Runtime where
  json : List Char → Except (ParserStop Json.SyntaxError) Value
  yaml : List Char → Except (ParserStop Unit) Value
  toml : List Char → Except Breakdown Fields
  gathering : Value → Except (ParserStop String) Value
  showing : Value → Option Breakdown
  converting : Value → Option Breakdown
  gathering_plain : ∀ v, v.KeysPlain → gathering v = .ok v
  gathering_unnamed : ∀ v, ¬ v.KeysNamed → ∃ b, gathering v = .error (.breakdown b)
  showing_ordinary : ∀ v, v.Ordinary → showing v = none
  converting_ordinary : ∀ v, v.Ordinary → converting v = none

namespace Runtime

/-! ## The usual runtime -/

def usualJson (text : List Char) : Except (ParserStop Json.SyntaxError) Value :=
  match Json.read text with
  | .ok v => if nestingLimit < Json.nesting text then .error (.breakdown .tooDeep) else .ok v
  | .error e =>
    -- what is read before the error may be too deep already
    if nestingLimit < Json.nesting (text.take (e.position + 1)) then .error (.breakdown .tooDeep)
    else if e.fault = .longInteger then .error (.breakdown .longInteger)
    else .error (.told e)

def yamlStop : Yaml.Fault → ParserStop Unit
  | .syntaxError => .told ()
  | fault => .breakdown (.yaml fault)

/-- Every level of a text takes two nested calls. -/
def usualYaml (text : List Char) : Except (ParserStop Unit) Value :=
  match Yaml.checkedTokens text with
  | .error fault => .error (yamlStop fault)
  | .ok tokens =>
    if nestingLimit < 2 * Yaml.nesting tokens then .error (.breakdown .tooDeep)
    else (Yaml.valueOf tokens).mapError yamlStop

def usualToml (text : List Char) : Except Breakdown Fields :=
  (Toml.read text).mapError fun
    | .syntaxError => .toml
    | .longInteger => .longInteger
    | .tooDeep => .tooDeep

def usualGathering (v : Value) : Except (ParserStop String) Value :=
  match Settings.gathered? v with
  | some gathered => .ok gathered
  | none => .error (.breakdown .unnamedSetting)

def usualShowing (v : Value) : Option Breakdown :=
  if v.hasLongInteger then some .longInteger
  else if v.isTooDeep 1 then some .tooDeep
  else none

/-- Only some of the values in a document are shown or gone through when it is converted. -/
def usualConverting (v : Value) : Option Breakdown :=
  if v.hasLongInteger && (Swagger.shownValues v).any Value.hasLongInteger then some .longInteger
  else if v.isTooDeep 2 &&
      (Swagger.shownValues v ++ Swagger.copiedValues v).any (Value.isTooDeep 2) then
    some .tooDeep
  else none

/-- The runtime that is used unless another one is named. -/
def usual : Runtime where
  json := usualJson
  yaml := usualYaml
  toml := usualToml
  gathering := usualGathering
  showing := usualShowing
  converting := usualConverting
  gathering_plain v h := by
    rw [usualGathering, Settings.gathered?_plain h]
  gathering_unnamed v h := by
    rw [usualGathering, Settings.gathered?_unnamed h]
    exact ⟨_, rfl⟩
  showing_ordinary v h := by
    rw [usualShowing, h.integers, h.isTooDeep (by decide)]
    rfl
  converting_ordinary v h := by
    rw [usualConverting, h.integers, h.isTooDeep (by decide)]
    rfl

/-! ## Uses of a runtime -/

variable (runtime : Runtime)

/-- The text of a value, which may be too much to be shown. -/
def text (v : Value) : Attempt String :=
  match runtime.showing v with
  | some b => .breakDown b
  | none => .ok v.plain

/-- The newer version of a document of the older one. -/
def convert (document : Value) : Attempt (Noted Value) :=
  match runtime.converting document with
  | some b => .breakDown b
  | none => .ofRaw (Swagger.convert document)

end Runtime

/-- whether a path leads to anything, unless it is one that is not followed -/
def FileSystem.isThere (fs : FileSystem) (p : Path) : Attempt Bool :=
  if fs.refuses p then .breakDown (.unreadable .missing) else .ok (fs.leadsSomewhere p)

end ApiBindings
