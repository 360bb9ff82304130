import ApiAtlas.CommandLine.Option
import ApiAtlas.Search.Query

/-! # Reading a command line

The arguments before the command and those after it are read with the same rules, each side for
itself: an option may be given once on each side, and the later one counts. A value that stands
apart from its option is only checked when the next thing is read. Options of the program that a
side does not have are looked up in the environment, and the value found there is checked, even if
the other side has the option.
-/

namespace ApiAtlas.CommandLine

/-- Variables of the environment. -/
abbrev Environment := List (String × String)

/-- The value of a variable. -/
def Environment.value? (environment : Environment) (name : String) : Option String :=
  (environment.find? fun (key, _) => key == name).map Prod.snd

/-- What was read on one side of the command: options with their values, an option whose value is
not checked yet, and whether the next argument is a value or can no longer be an option. -/
structure Side where
  given : List (OptionName × String)
  pending : Option (OptionName × Option String)
  awaitsValue : Bool
  optionsEnded : Bool

namespace Side

/-- A side without arguments. -/
def empty : Side := ⟨[], none, false, false⟩

/-- The value of an option. -/
def value? (side : Side) (option : OptionName) : Option String :=
  (side.given.find? fun (name, _) => name == option).map Prod.snd

/-- Enter an option with its value. -/
def store (side : Side) (option : OptionName) (value : Option String) : Except UsageError Side :=
  match value with
  | none => .error .invalidValue
  | some value =>
    if (side.value? option).isSome then .error .repeatedOption
    else match option.valueError? value with
      | some error => .error error
      | none => .ok { side with given := side.given ++ [(option, value)] }

/-- Enter the option whose value is not checked yet. -/
def settle (side : Side) : Except UsageError Side :=
  match side.pending with
  | none => .ok side
  | some (option, value) => { side with pending := none, awaitsValue := false }.store option value

/-- Read an option, with the value that is attached to it, if any. -/
def readOption (side : Side) (option : OptionName) (attached : Option String) :
    Except UsageError Side := do
  let side ← side.settle
  if option = .help then .error .help
  else if !option.takesValue then side.store option (some "true")
  else match attached with
    | some value => side.store option (some value)
    | none => return { side with pending := some (option, none), awaitsValue := true }

/-- Read an option by its long name. -/
def readLong (side : Side) (scope : Scope) (text : List Char) : Except UsageError Side :=
  let name := text.takeWhile (· != '=')
  let attached := match text.drop name.length with
    | _ :: value => some (String.ofList value)
    | [] => none
  match scope.long? (String.ofList name) with
  | none => .error .unknownArgument
  | some option =>
    if !option.takesValue && attached.isSome then .error .unexpectedValue
    else side.readOption option attached

/-- Read an option by its short name. What follows the name is its value. -/
def readShort (side : Side) (scope : Scope) : List Char → Except UsageError Side
  | [] => .ok side
  | name :: rest =>
    match scope.short? name with
    | none => .error .unknownArgument
    | some option =>
      let attached := match rest with
        | [] => none
        | '=' :: value => some (String.ofList value)
        | value => some (String.ofList value)
      side.readOption option attached

/-- Read an argument that is neither an option nor the value of one. Only the search has such an
argument, and only one. -/
def readPlain (side : Side) (scope : Scope) (text : String) : Except UsageError Side :=
  match scope with
  | .program => .error (if side.optionsEnded then .unknownArgument else .invalidCommand)
  | .command .search =>
    if (side.value? .query).isSome then .error .unknownArgument
    else do (← side.settle).store .query (some text)
  | .command _ => .error .unknownArgument

/-- Read one argument. -/
def readArgument (side : Side) (scope : Scope) (text : String) : Except UsageError Side :=
  if side.optionsEnded then side.readPlain scope text
  else match text.toList with
    | ['-', '-'] => .ok { side with optionsEnded := true }
    | '-' :: '-' :: rest => side.readLong scope rest
    | '-' :: c :: rest => side.readShort scope (c :: rest)
    | _ =>
      match side.awaitsValue, side.pending with
      | true, some (option, _) =>
        .ok { side with pending := some (option, some text), awaitsValue := false }
      | _, _ => side.readPlain scope text

/-- Look up options of the program that a side does not have in the environment. The value is
checked, and kept apart from what the side gives. -/
def checkEnvironment (side : Side) (environment : Environment) : Except UsageError Unit :=
  OptionName.global.forM fun option =>
    match (option.environmentName?).bind environment.value? with
    | some value =>
      if (side.value? option).isSome then .ok ()
      else match option.valueError? value with
        | some error => .error error
        | none => .ok ()
    | none => .ok ()

/-- Read the end of a side. -/
def finish (side : Side) (scope : Scope) (environment : Environment) : Except UsageError Side := do
  let side ← side.settle
  side.checkEnvironment environment
  if scope = .command .search ∧ (side.value? .query).isNone then .error .missingArgument
  else return side

end Side

/-- Read the arguments after a command. -/
def readCommand (name : CommandName) (environment : Environment) (side : Side) :
    List String → Except UsageError Side
  | [] => side.finish (.command name) environment
  | text :: rest => do
    readCommand name environment (← side.readArgument (.command name) text) rest

/-- Read the arguments after a request for help: the command it is about, if any. -/
def readHelp : List String → UsageError
  | [] => .help
  | [name] => if name = "help" || (CommandName.ofLabel? name).isSome then .help else .invalidCommand
  | _ => .invalidCommand

/-- Both sides of a command line, and the command between them. -/
structure Sides where
  before : Side
  command : Option (CommandName × Side)

/-- Read a command line. -/
def readSides (environment : Environment) (side : Side) : List String → Except UsageError Sides
  | [] => return ⟨← side.finish .program environment, none⟩
  | text :: rest => do
    let mayBeCommand := !side.optionsEnded && !side.awaitsValue
    match (if mayBeCommand then CommandName.ofLabel? text else none) with
    | some name =>
      let after ← readCommand name environment .empty rest
      return ⟨← side.finish .program environment, some (name, after)⟩
    | none =>
      if mayBeCommand && text == "help" then .error (readHelp rest)
      else readSides environment (← side.readArgument .program text) rest

/-- What the program is asked to do. -/
inductive Command where
  | stdio
  | search (query : String) (kind : Option RecordKind) (category : Option String) (limit : Nat)
  | stats
deriving DecidableEq, Repr

/-- A command line that was understood. -/
structure Invocation where
  command : Command
  root : Option String
  download : Bool
  cacheDir : Option String
  logJson : Bool
deriving DecidableEq, Repr

namespace Sides

/-- The value of an option of the program: after the command, before it, or from the environment. -/
def global? (sides : Sides) (environment : Environment) (option : OptionName) : Option String :=
  ((sides.command.bind fun (_, after) => after.value? option).or (sides.before.value? option)).or
    (option.environmentName?.bind environment.value?)

/-- Whether an option of the program without a value is given. -/
def flag (sides : Sides) (environment : Environment) (option : OptionName) : Bool :=
  ((sides.global? environment option).bind flag?).getD false

/-- The command. Without one the program serves. -/
def commandOf (sides : Sides) : Command :=
  match sides.command with
  | some (.search, side) =>
    .search ((side.value? .query).getD "") ((side.value? .kind).bind RecordKind.ofLabel?)
      (side.value? .category) (((side.value? .limit).bind number?).getD defaultLimit)
  | some (.stats, _) => .stats
  | some (.stdio, _) => .stdio
  | none => .stdio

end Sides

/-- Understand a command line. -/
def read (environment : Environment) (arguments : List String) : Except UsageError Invocation := do
  let sides ← readSides environment .empty arguments
  return {
    command := sides.commandOf
    root := sides.global? environment .root
    download := sides.flag environment .download
    cacheDir := sides.global? environment .cacheDir
    logJson := sides.flag environment .logJson }

/-- The directory of headers that is named. A blank name counts as none. -/
def Invocation.rootGiven? (invocation : Invocation) : Option String :=
  invocation.root.filter fun root => !Text.isBlankText root.toList

end ApiAtlas.CommandLine
