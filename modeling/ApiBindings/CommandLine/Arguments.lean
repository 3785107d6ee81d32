import ApiBindings.Text.Basic

/-!
# Arguments

The commands of the program and their options.  An option has a long spelling, to which its value
may be attached with an equals sign, and maybe a letter; letters may be run together.
-/

namespace ApiBindings.CommandLine

/-- An option. -/
inductive Setting where
  | config
  | file
  | output
  | hooks
  | noHooks
  | verbose
  | help
deriving DecidableEq, Repr

/-- What is asked of the main command. -/
structure Request where
  config : Option String := none
  file : Option String := none
  output : Option String := none
  hooks : Bool := true
deriving DecidableEq, Repr

/-- What the arguments ask for. -/
inductive Command where
  | generate (r : Request)
  | version
  | help
  /-- The arguments make no sense. -/
  | misuse
deriving DecidableEq, Repr

namespace Setting

def takesValue : Setting → Bool
  | config => true
  | file => true
  | output => true
  | _ => false

def names : List (String × Setting) :=
  [("--config", config), ("--file", file), ("--output", output), ("--hooks", hooks),
    ("--no-hooks", noHooks), ("--verbose", verbose), ("--help", help)]

def letters : List (Char × Setting) :=
  [('c', config), ('f', file), ('o', output), ('v', verbose)]

end Setting

/-! ## Single arguments -/

/-- What an argument settles: options with their values, and maybe one whose value is the next
argument. -/
structure Settled where
  given : List (Setting × String)
  open_ : Option Setting
deriving DecidableEq, Repr

/-- Reads letters that are run together.  What follows the letter of an option with a value is its
value. -/
def settleLetters (allowed : List Setting) : List Char → Option Settled
  | [] => some ⟨[], none⟩
  | letter :: rest =>
    match Setting.letters.lookup letter with
    | none => none
    | some s =>
      if !allowed.contains s then none
      else if s.takesValue then
        if rest.isEmpty then some ⟨[], some s⟩ else some ⟨[(s, String.ofList rest)], none⟩
      else (settleLetters allowed rest).map fun more => { more with given := (s, "") :: more.given }

/-- Reads an argument that begins with a hyphen. -/
def settle (allowed : List Setting) (arg : String) : Option Settled :=
  let chars := arg.toList
  let name := String.ofList (chars.takeWhile (· != '='))
  match (Setting.names.lookup name).filter allowed.contains with
  | some s =>
    match s.takesValue, chars.drop name.length with
    | true, [] => some ⟨[], some s⟩
    | true, _ :: value => some ⟨[(s, String.ofList value)], none⟩
    | false, [] => some ⟨[(s, "")], none⟩
    | false, _ :: _ => none
  | none =>
    match chars with
    | _ :: '-' :: _ => none
    | _ :: letters => settleLetters allowed letters
    | [] => none

def isOption (arg : String) : Bool := Text.startsWith "-" arg && arg != "-"

/-! ## Argument lists -/

/-- The options of a command and its other arguments. -/
structure Arguments where
  given : List (Setting × String) := []
  others : List String := []
deriving DecidableEq, Repr

/-- Sorts the arguments of a command; behind `--` there are no options. -/
def sortArguments (allowed : List Setting) (a : Arguments) : List String → Option Arguments
  | [] => some a
  | arg :: rest =>
    if arg = "--" then some { a with others := a.others ++ rest }
    else if isOption arg then
      match settle allowed arg with
      | none => none
      | some ⟨given, none⟩ => sortArguments allowed { a with given := a.given ++ given } rest
      | some ⟨given, some s⟩ =>
        match rest with
        | [] => none
        | value :: rest =>
          sortArguments allowed { a with given := a.given ++ given ++ [(s, value)] } rest
    else sortArguments allowed { a with others := a.others ++ [arg] } rest

def Request.set (r : Request) : Setting × String → Request
  | (.config, value) => { r with config := some value }
  | (.file, value) => { r with file := some value }
  | (.output, value) => { r with output := some value }
  | (.hooks, _) => { r with hooks := true }
  | (.noHooks, _) => { r with hooks := false }
  | _ => r

/-- The command for its arguments: help has priority over other arguments, of which there may be
none. -/
def commandOf (allowed : List Setting) (command : List (Setting × String) → Command)
    (args : List String) : Command :=
  match sortArguments allowed {} args with
  | none => .misuse
  | some a =>
    if a.given.any fun entry => entry.1 == .help then .help
    else if a.others.isEmpty then command a.given
    else .misuse

def generateSettings : List Setting :=
  [.config, .file, .output, .hooks, .noHooks, .verbose, .help]

def Command.named : List String → Command
  | "generate" :: args =>
    commandOf generateSettings (fun given => .generate (given.foldl Request.set {})) args
  | "version" :: args => commandOf [.help] (fun _ => .version) args
  | _ => .misuse

/-- The command that the arguments ask for.  In front of its name only help may be asked for. -/
def Command.ofArguments : List String → Command
  | [] => .misuse
  | arg :: rest =>
    if arg = "--" then .named rest
    else if arg = "--help" then
      match leading rest with
      | true => .help
      | false => .misuse
    else if isOption arg then .misuse
    else .named (arg :: rest)
where
  /-- whether the options in front of the name are sound -/
  leading : List String → Bool
    | [] => true
    | arg :: rest =>
      if arg = "--" || !isOption arg then true else arg == "--help" && leading rest

end ApiBindings.CommandLine
