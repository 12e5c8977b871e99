/-!
# Arguments of the command line

Options can stand in front of the command and behind it; the one behind it counts. Each may stand
once in either place. An option's value is looked at when the next option or operand of the same
place is read, or at the end of that place.
-/

namespace Postmortem.CommandLine

/-- The form of the output. -/
inductive Format where
  | text
  | json
deriving DecidableEq, Repr, Inhabited

/-- A built-in configuration. -/
inductive Preset where
  | standard
  | strict
  | permissive
deriving DecidableEq, Repr, Inhabited

/-- The options that were given. -/
structure Options where
  format : Option Format := none
  config : Option String := none
  preset : Option Preset := none
  debug : Option Unit := none
deriving DecidableEq, Repr, Inhabited

/-- The options, of which those given later count. -/
def Options.over (later earlier : Options) : Options :=
  { format := later.format <|> earlier.format
    config := later.config <|> earlier.config
    preset := later.preset <|> earlier.preset
    debug := later.debug <|> earlier.debug }

/-- What to do. -/
inductive Task where
  | analyze (transcript : String)
  | compare (baseline comparison : String)
deriving DecidableEq, Repr, Inhabited

/-- What the arguments ask for. -/
structure Invocation where
  options : Options
  task : Task
deriving DecidableEq, Repr, Inhabited

/-- Why arguments cannot be understood. -/
inductive UsageError where
  | valueMissing (target : String)
  | valueInvalid (value target : String)
  | valueSurplus (value target : String)
  | repeated (target : String)
  | unexpected (argument : String)
  | unknownCommand (name : String)
  | commandMissing
  | operandsMissing (names : List String)
deriving DecidableEq, Repr

/-- The text of an error. -/
def UsageError.message : UsageError → String
  | valueMissing target => s!"a value is required for '{target}' but none was supplied"
  | valueInvalid value target => s!"invalid value '{value}' for '{target}'"
  | valueSurplus value target =>
    s!"unexpected value '{value}' for '{target}' found; no more were expected"
  | repeated target => s!"the argument '{target}' cannot be used multiple times"
  | unexpected argument => s!"unexpected argument '{argument}' found"
  | unknownCommand name => s!"unrecognized subcommand '{name}'"
  | commandMissing => "'crashlens' requires a subcommand but one was not provided"
  | operandsMissing names =>
    "the following required arguments were not provided:" ++
      String.join (names.map ("\n  " ++ ·))

/-- Why there is nothing to do. -/
inductive Stop where
  | help
  | version
  /-- There are no arguments at all. -/
  | noArguments
  | usage (error : UsageError)
deriving DecidableEq, Repr

/-- What arguments are read into. -/
abbrev Parsed := Except Stop

/-- The options that take a value. -/
inductive ValueOption where
  | format
  | config
  | preset
deriving DecidableEq, Repr

/-- Stops at a mistake. -/
def refuse {α : Type} (error : UsageError) : Parsed α := .error (.usage error)

/-- One of several names. An empty name is a missing one. -/
def choose {α : Type} (target : String) (choices : List (String × α)) (value : String) :
    Parsed α :=
  match choices.find? fun choice => choice.1 == value with
  | some (_, choice) => .ok choice
  | none =>
    refuse (if value.isEmpty then .valueMissing target else .valueInvalid value target)

/-- A path, which is not empty. -/
def path (target value : String) : Parsed String :=
  if value.isEmpty then refuse (.valueMissing target) else .ok value

/-- An option as messages show it. -/
def ValueOption.target : ValueOption → String
  | format => "--format <FORMAT>"
  | config => "--config <FILE>"
  | preset => "--preset <PRESET>"

/-- Stores a value that was given once. -/
def once {α : Type} (target : String) (old : Option α) (new : Parsed α) : Parsed (Option α) :=
  match old with
  | some _ => refuse (.repeated target)
  | none => new.map some

namespace Options

/-- Stores the value of an option. -/
def store (options : Options) (option : ValueOption) (value : String) : Parsed Options := do
  let target := option.target
  match option with
  | .format =>
    let choices := [("text", Format.text), ("json", .json)]
    return { options with format := ← once target options.format (choose target choices value) }
  | .config =>
    return { options with config := ← once target options.config (path target value) }
  | .preset =>
    let choices := [("default", Preset.standard), ("strict", .strict), ("permissive", .permissive)]
    return { options with preset := ← once target options.preset (choose target choices value) }

/-- Turns debugging on. -/
def storeDebug (options : Options) : Parsed Options := do
  return { options with debug := ← once "--debug" options.debug (.ok ()) }

end Options

/-- What was read last and has not been looked at. -/
inductive Pending where
  /-- An option that waits for its value, or has it. -/
  | option (option : ValueOption) (value : Option String)
  | operand (value : String)
deriving DecidableEq, Repr

/-- The arguments of one place that were read so far: those in front of the command or those
behind it. -/
structure Place where
  /-- Whether the arguments in front of the command are read. -/
  isFront : Bool
  /-- The operands that the place takes, as messages show them. -/
  operandNames : List String
  options : Options := {}
  operands : List String := []
  pending : Option Pending := none
  /-- Whether only operands follow. -/
  onlyOperands : Bool := false

namespace Place

/-- Looks at what was read last. -/
def settle (place : Place) : Parsed Place :=
  match place.pending with
  | none => .ok place
  | some (.option option none) => refuse (.valueMissing option.target)
  | some (.option option (some value)) => do
    return { place with options := ← place.options.store option value, pending := none }
  | some (.operand value) => do
    let name := place.operandNames.getD place.operands.length ""
    return { place with operands := place.operands ++ [← path name value], pending := none }

/-- How many operands were read. -/
def operandCount (place : Place) : Nat :=
  place.operands.length + match place.pending with
    | some (.operand _) => 1
    | _ => 0

/-- Whether an option waits for its value. -/
def awaitsValue (place : Place) : Bool :=
  match place.pending with
  | some (.option _ none) => true
  | _ => false

/-- Reads an option with a value or the mark of one. -/
def readOption (place : Place) (option : ValueOption) (attached : Option String) :
    Parsed Place := do
  let place ← place.settle
  match attached with
  | some value => return { place with options := ← place.options.store option value }
  | none => return { place with pending := some (.option option none) }

/-- Reads an option that takes no value. -/
def readSwitch (place : Place) (name : String) (attached : Option String)
    (effect : Place → Parsed Place) : Parsed Place :=
  match attached with
  | some value => refuse (.valueSurplus value ("--" ++ name))
  | none => do effect (← place.settle)

/-- Reads a long option. -/
def readLong (place : Place) (name : String) (attached : Option String) : Parsed Place :=
  match name with
  | "format" => place.readOption .format attached
  | "config" => place.readOption .config attached
  | "preset" => place.readOption .preset attached
  | "debug" =>
    place.readSwitch name attached fun place => do
      return { place with options := ← place.options.storeDebug }
  | "help" => place.readSwitch name attached fun _ => .error .help
  | "version" =>
    if place.isFront then place.readSwitch name attached fun _ => .error .version
    else refuse (.unexpected "--version")
  | _ => refuse (.unexpected ("--" ++ name))

/-- Reads a short option. -/
def readShort (place : Place) (letter : Char) : Parsed Place := do
  if letter == 'h' then
    let _ ← place.settle
    .error .help
  else if letter == 'V' && place.isFront then
    let _ ← place.settle
    .error .version
  else refuse (.unexpected (.ofList ['-', letter]))

/-- Reads what is no option. -/
def readOperand (place : Place) (argument : String) : Parsed Place := do
  if place.operandCount < place.operandNames.length then
    return { ← place.settle with pending := some (.operand argument) }
  else refuse (.unexpected argument)

/-- Reads an argument that is no command. -/
def read (place : Place) (argument : String) : Parsed Place :=
  if place.onlyOperands then place.readOperand argument
  else
    match argument.toList with
    | ['-', '-'] => .ok { place with onlyOperands := true }
    | '-' :: '-' :: cs =>
      let attached := match cs.dropWhile (· != '=') with
        | '=' :: value => some (String.ofList value)
        | _ => none
      place.readLong (.ofList (cs.takeWhile (· != '='))) attached
    | '-' :: letter :: _ => place.readShort letter
    | _ =>
      match place.pending with
      | some (.option option none) =>
        .ok { place with pending := some (.option option (some argument)) }
      | _ => place.readOperand argument

/-- The options and operands of a place whose arguments have all been read. -/
def finish (place : Place) : Parsed (Options × List String) := do
  let place ← place.settle
  let missing := place.operandNames.drop place.operands.length
  if missing.isEmpty then return (place.options, place.operands)
  else refuse (.operandsMissing missing)

end Place

/-- The names of the commands. -/
def commandNames : List String := ["analyze", "compare", "help"]

/-- Reads what stands behind a command. -/
def readTask (name : String) (arguments : List String) : Parsed (Options × Task) := do
  let operandNames :=
    if name == "analyze" then ["<TRANSCRIPT>"] else ["<BASELINE>", "<COMPARISON>"]
  let place ← arguments.foldlM Place.read { isFront := false, operandNames }
  let (options, operands) ← place.finish
  match operands with
  | [transcript] => return (options, .analyze transcript)
  | baseline :: comparison :: _ => return (options, .compare baseline comparison)
  | [] => refuse (.operandsMissing operandNames)

/-- Reads what stands behind the command that asks for help. -/
def readHelp : List String → Parsed Invocation
  | [] => .error .help
  | name :: names =>
    if !commandNames.contains name then refuse (.unknownCommand name)
    else
      match names with
      | [] => .error .help
      | next :: _ => refuse (.unknownCommand next)

/-- Reads an argument in front of the command that is neither an option nor a command. -/
def refuseWord {α : Type} (place : Place) (word : String) : Parsed α :=
  if place.onlyOperands && commandNames.contains word then refuse (.unexpected word)
  else refuse (.unknownCommand word)

/-- Whether an argument in front of the command is read as an option or as the value of one. -/
def isForPlace (place : Place) (argument : String) : Bool :=
  !place.onlyOperands &&
    (place.awaitsValue ||
      match argument.toList with
      | '-' :: _ :: _ => true
      | _ => false)

/-- Reads arguments from the front. -/
def readFront (place : Place) : List String → Parsed Invocation
  | [] => do
    let (options, _) ← place.finish
    if options = {} then .error .noArguments else refuse .commandMissing
  | argument :: arguments => do
    if !place.onlyOperands && !place.awaitsValue && commandNames.contains argument then
      if argument == "help" then readHelp arguments
      else
        let (behind, task) ← readTask argument arguments
        let (front, _) ← place.finish
        return { options := behind.over front, task }
    else if isForPlace place argument then
      readFront (← place.read argument) arguments
    else refuseWord place argument

/-- Reads the arguments of the command line. -/
def readArguments (arguments : List String) : Parsed Invocation :=
  readFront { isFront := true, operandNames := [] } arguments

end Postmortem.CommandLine
