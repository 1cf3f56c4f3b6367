/-!
# Command-line arguments

A value is held back until the next argument that is no value of it, and only then recorded. So an
option without a value and a value given twice are noticed there, an unknown argument before.
-/

namespace SourceModel.Command

inductive ArgumentProblem
  | helpRequested
  | versionRequested
  | unknownArgument
  | tooManyValues
  | missingValue
  | repeatedArgument
  | missingInput
  deriving DecidableEq, Repr

structure Arguments where
  input : String
  output : String := "generated"
  config : Option String := none
  overwrite : Bool := false
  dryRun : Bool := false
  logLevel : String := "info"
  deriving DecidableEq, Repr

inductive Slot
  | input
  | output
  | config
  | logLevel
  deriving DecidableEq, Repr

inductive Flag
  | overwrite
  | dryRun
  deriving DecidableEq, Repr

inductive OptionName
  | slot (slot : Slot)
  | flag (flag : Flag)
  | help
  | version
  deriving DecidableEq, Repr

def longName? (name : List Char) : Option OptionName :=
  match String.ofList name with
  | "output" => some (.slot .output)
  | "config" => some (.slot .config)
  | "log-level" => some (.slot .logLevel)
  | "overwrite" => some (.flag .overwrite)
  | "dry-run" => some (.flag .dryRun)
  | "help" => some .help
  | "version" => some .version
  | _ => none

def shortName? : Char → Option OptionName
  | 'o' => some (.slot .output)
  | 'c' => some (.slot .config)
  | 'h' => some .help
  | 'V' => some .version
  | _ => none

inductive ArgumentForm
  | escape
  | named (name : Option OptionName) (attached : Option (List Char))
  | plain
  deriving DecidableEq, Repr

/-- The form of letters behind one dash: only a letter that takes a value looks at what follows it,
and an equals sign may set that off. -/
def formOfLetters (letter : Char) (rest : List Char) : ArgumentForm :=
  match shortName? letter, rest with
  | some (.slot slot), '=' :: value => .named (some (.slot slot)) (some value)
  | some (.slot slot), c :: value => .named (some (.slot slot)) (some (c :: value))
  | name, _ => .named name none

def formOf (argument : String) : ArgumentForm :=
  match argument.toList with
  | ['-', '-'] => .escape
  | '-' :: '-' :: rest =>
    let name := rest.takeWhile (· != '=')
    .named (longName? name) (rest.drop name.length).tail?
  | '-' :: letter :: rest => formOfLetters letter rest
  | _ => .plain

structure Progress where
  values : List (Slot × String) := []
  flags : List Flag := []
  /-- A slot whose value is not recorded yet, and the value unless it is still awaited. -/
  pending : Option (Slot × Option String) := none
  onlyPlain : Bool := false
  deriving DecidableEq, Repr

namespace Progress

def value? (progress : Progress) (slot : Slot) : Option String :=
  (progress.values.find? fun entry => entry.1 = slot).map Prod.snd

def settle (progress : Progress) : Except ArgumentProblem Progress :=
  match progress.pending with
  | none => .ok progress
  | some (_, none) => .error .missingValue
  | some (slot, some value) =>
    if (progress.value? slot).isSome then .error .repeatedArgument
    else .ok { progress with values := progress.values ++ [(slot, value)], pending := none }

def hold (progress : Progress) (slot : Slot) (value : Option String) :
    Except ArgumentProblem Progress := do
  return { ← progress.settle with pending := some (slot, value) }

def takePlain (progress : Progress) (argument : String) : Except ArgumentProblem Progress :=
  if (progress.value? .input).isSome || (progress.pending.map Prod.fst) == some .input then
    .error .unknownArgument
  else progress.hold .input (some argument)

def takeNamed (progress : Progress) (name : OptionName) (attached : Option (List Char)) :
    Except ArgumentProblem Progress :=
  match name, attached with
  | .slot slot, none => progress.hold slot none
  | .slot slot, some value => do (← progress.hold slot (some (String.ofList value))).settle
  | _, some _ => .error .tooManyValues
  | .flag flag, none => do
    let settled ← progress.settle
    if settled.flags.contains flag then .error .repeatedArgument
    else return { settled with flags := settled.flags ++ [flag] }
  | .help, none => do
    let _ ← progress.settle
    .error .helpRequested
  | .version, none => do
    let _ ← progress.settle
    .error .versionRequested

def take (progress : Progress) (argument : String) : Except ArgumentProblem Progress :=
  if progress.onlyPlain then progress.takePlain argument
  else match formOf argument with
    | .escape => .ok { progress with onlyPlain := true }
    | .named none _ => .error .unknownArgument
    | .named (some name) attached => progress.takeNamed name attached
    | .plain =>
      match progress.pending with
      | some (slot, none) => .ok { progress with pending := some (slot, some argument) }
      | _ => progress.takePlain argument

def finish (progress : Progress) : Except ArgumentProblem Arguments := do
  let settled ← progress.settle
  match settled.value? .input with
  | none => .error .missingInput
  | some input =>
    let unsaid : Arguments := { input }
    return { unsaid with
      output := (settled.value? .output).getD unsaid.output
      config := settled.value? .config
      overwrite := settled.flags.contains .overwrite
      dryRun := settled.flags.contains .dryRun
      logLevel := (settled.value? .logLevel).getD unsaid.logLevel }

end Progress

def Arguments.parse (arguments : List String) : Except ArgumentProblem Arguments := do
  (← arguments.foldlM Progress.take {}).finish

end SourceModel.Command
