import FieldAccess.CommandLine.Value
import FieldAccess.Manifest.Environment

/-!
# Command lines

A command line names a command word by word. Options may stand after each of the words: the words
before an option say at which level it is given. Some options are understood at all levels, and
variables of the environment stand in for options that are not given.

The value of an option is only looked at when the next option is met or the level ends. This
decides which of two faults is told.

## Main definitions

* `OptionSpec`, `Level`, `Grammar` – what is understood.
* `Given` – the values at a level.
* `Stop` – why no command is carried out.
* `Grammar.read` – the command that a command line gives.
-/

namespace FieldAccess.CommandLine

/-- An option, or the argument of a command. -/
structure OptionSpec where
  name : String
  letter : Option Char := none
  /-- What its value must be, and what the value is called; `none` if it has no value. -/
  value : Option (ValueKind × String) := none
  /-- The variable that stands in for it. -/
  stand : Option String := none
  repeatable : Bool := false
  deriving Repr, DecidableEq

/-- An option as it is named in messages. -/
def OptionSpec.display (option : OptionSpec) : String :=
  match option.value with
  | some (_, placeholder) => s!"--{option.name} <{placeholder}>"
  | none => "--" ++ option.name

/-- Why a command line is not understood. -/
inductive UsageFault where
  | invalidValue (option : OptionSpec) (text : String) (fault : ValueFault)
  | noValue (option : OptionSpec)
  | surplusValue (option : OptionSpec)
  | repeated (option : OptionSpec)
  | unknown (argument : String)
  | missing (names : List String)
  | noCommand (path : List String)
  deriving Repr, DecidableEq

/-- The wording of a fault. -/
def UsageFault.message : UsageFault → String
  | invalidValue option _ .empty =>
    s!"a value is required for '{option.display}' but none was supplied"
  | invalidValue option text fault =>
    s!"invalid value '{text}' for '{option.display}': {fault.message}"
  | noValue option => s!"a value is required for '{option.display}' but none was supplied"
  | surplusValue option => s!"a value was supplied for '{option.display}', which takes none"
  | repeated option => s!"the argument '{option.display}' cannot be used multiple times"
  | unknown argument => s!"unexpected argument '{argument}' found"
  | missing names =>
    "the following required arguments were not provided: " ++ ", ".intercalate names
  | noCommand path =>
    "'" ++ " ".intercalate path ++ "' requires a subcommand but one was not provided"

/-- Why no command is carried out. -/
inductive Stop where
  | fault (fault : UsageFault)
  /-- Help with a command is asked for. -/
  | help (path : List String)
  /-- The version is asked for. -/
  | version (path : List String)
  deriving Repr, DecidableEq

/-- The values at a level. -/
structure Given where
  /-- The values on the command line, in order. -/
  line : List (String × Value) := []
  /-- The values from the environment. -/
  env : List (String × Value) := []
  deriving Repr, DecidableEq

namespace Given

/-- The values with a name in a list. -/
def named (name : String) (values : List (String × Value)) : List Value :=
  (values.filter (·.1 = name)).map (·.2)

/-- All values of an option. Those on the command line come before those of the environment. -/
def all (given : Given) (name : String) : List Value :=
  named name given.line ++ named name given.env

/-- The value of an option. -/
def value? (given : Given) (name : String) : Option Value := (given.all name).head?

/-- The text that an option gives. -/
def text? (given : Given) (name : String) : Option String :=
  match given.value? name with
  | some (.text text) => some text
  | _ => none

/-- The port that an option gives. -/
def port? (given : Given) (name : String) : Option UInt16 :=
  match given.value? name with
  | some (.port port) => some port
  | _ => none

/-- The fields that an option gives. -/
def fields (given : Given) (name : String) : List FieldRef :=
  (given.all name).filterMap fun value =>
    match value with
    | .field ref => some ref
    | _ => none

/-- Whether an option is there. -/
def has (given : Given) (name : String) : Bool := (given.value? name).isSome

/-- Values at a level together with those at the level below it, which count first. -/
def under (inner outer : Given) : Given := ⟨inner.line ++ outer.line, inner.env ++ outer.env⟩

end Given

/-- What can follow some of the words of a command. -/
structure Level (α : Type) where
  /-- The words. -/
  path : List String
  options : List OptionSpec := []
  argument : Option OptionSpec := none
  /-- What the words mean with nothing after them. -/
  meaning : Given → Except UsageFault α

/-- The command lines that are understood. -/
structure Grammar (α : Type) where
  levels : List (Level α)
  /-- The options that are understood at all levels. -/
  common : List OptionSpec

namespace Grammar

variable {α : Type}

/-- The level after some words. -/
def level? (grammar : Grammar α) (path : List String) : Option (Level α) :=
  grammar.levels.find? (·.path = path)

/-- Whether further words can follow. -/
def goesOn (grammar : Grammar α) (path : List String) : Bool :=
  grammar.levels.any fun level => !level.path.isEmpty && level.path.dropLast = path

/-- The options that are understood at a level. -/
def optionsAt (grammar : Grammar α) (level : Level α) : List OptionSpec :=
  level.options ++ grammar.common

end Grammar

/-- An option or argument whose value is not looked at yet. -/
structure Waiting where
  option : OptionSpec
  text : Option String := none
  deriving Repr, DecidableEq

/-- How far a level is read. -/
structure Progress where
  line : List (String × Value) := []
  waiting : Option Waiting := none
  /-- Whether the argument of the command is there. -/
  argued : Bool := false
  deriving Repr, DecidableEq

namespace Progress

/-- Adds an option with a value, or with none. -/
def add (progress : Progress) (option : OptionSpec) (value : Except UsageFault Value) :
    Except UsageFault Progress := do
  if !option.repeatable && progress.line.any (·.1 = option.name) then throw (.repeated option)
  let value ← value
  return { progress with line := progress.line ++ [(option.name, value)], waiting := none }

/-- Looks at the value of the option that waits. -/
def settle (progress : Progress) : Except UsageFault Progress :=
  match progress.waiting with
  | none => .ok progress
  | some { option, text := none } => .error (.noValue option)
  | some { option, text := some text } =>
    progress.add option <|
      match option.value with
      | some (kind, _) => (kind.read text).mapError (.invalidValue option text)
      | none => .error (.surplusValue option)

/-- An option with the text that is attached to it, if there is one. A text that is attached is
looked at at once. -/
def option (progress : Progress) (option : OptionSpec) (attached : Option String) :
    Except UsageFault Progress :=
  match option.value, attached with
  | some _, some text => do
    settle { ← progress.settle with waiting := some { option, text := some text } }
  | some _, none => do return { ← progress.settle with waiting := some { option } }
  | none, some _ => .error (.surplusValue option)
  | none, none => do (← progress.settle).add option (.ok .on)

/-- Whether the next word is the value of an option. -/
def wantsValue (progress : Progress) : Bool :=
  match progress.waiting with
  | some { text := none, .. } => true
  | _ => false

/-- A word that is neither a command nor an option: the value of the option before it, or the
argument of the command. -/
def word (progress : Progress) (argument : Option OptionSpec) (text : String) :
    Except UsageFault Progress :=
  match progress.waiting, argument with
  | some { option, text := none }, _ =>
    .ok { progress with waiting := some { option, text := some text } }
  | _, some option =>
    if progress.argued then .error (.unknown text)
    else do
      return { ← progress.settle with
        waiting := some { option, text := some text }
        argued := true }
  | _, none => .error (.unknown text)

end Progress

namespace Grammar

variable {α : Type} (grammar : Grammar α)

/-- What is told about commands that help is asked for. -/
def helpWith : (path words : List String) → Stop
  | path, [] => .help path
  | path, word :: words =>
    if (grammar.level? (path ++ [word])).isSome then helpWith (path ++ [word]) words
    else if word = "help" && grammar.goesOn path && words.isEmpty then .help (path ++ [word])
    else .fault (.unknown word)

/-- An option by its name, with the text that is attached to it, if there is one. -/
def readName (level : Level α) (progress : Progress) (name : String) (attached : Option String) :
    Except Stop Progress :=
  match (grammar.optionsAt level).find? (·.name = name), name, attached with
  | some option, _, _ => (progress.option option attached).mapError .fault
  | none, "help", none => do
    discard (progress.settle.mapError .fault)
    throw (.help level.path)
  | none, "version", none => do
    discard (progress.settle.mapError .fault)
    throw (.version level.path)
  | none, _, _ => .error (.fault (.unknown ("--" ++ name)))

/-- Options by their letters. An option that has a value takes the letters after it. -/
def readLetters (level : Level α) (progress : Progress) : List Char → Except Stop Progress
  | [] => .ok progress
  | letter :: rest =>
    match (grammar.optionsAt level).find? (·.letter = some letter), letter, rest with
    | some option, _, rest =>
      if option.value.isSome then
        let attached := match rest with
          | [] => none
          | '=' :: text => some (String.ofList text)
          | text => some (String.ofList text)
        (progress.option option attached).mapError .fault
      else do
        readLetters level (← (progress.option option none).mapError .fault) rest
    | none, 'h', _ => do
      discard (progress.settle.mapError .fault)
      throw (.help level.path)
    | none, 'V', _ => do
      discard (progress.settle.mapError .fault)
      throw (.version level.path)
    | none, _, _ => .error (.fault (.unknown (String.ofList ['-', letter])))

/-- The values that the environment gives for the options that are not on the command line. -/
def standIns (env : Environment) (line : List (String × Value)) :
    List OptionSpec → Except UsageFault (List (String × Value))
  | [] => .ok []
  | option :: rest =>
    match option.stand.bind env.get?, option.value with
    | some text, some (kind, _) =>
      if line.any (·.1 = option.name) then standIns env line rest
      else do
        let value ← (kind.read text).mapError (.invalidValue option text)
        return (option.name, value) :: (← standIns env line rest)
    | _, _ => standIns env line rest

/-- The values at a level that has ended. -/
def close (env : Environment) (level : Level α) (progress : Progress) :
    Except UsageFault Given := do
  let progress ← progress.settle
  return { line := progress.line, env := ← standIns env progress.line (grammar.optionsAt level) }

/-- What a level means that ends without a further word of a command. -/
def finish (env : Environment) (level : Level α) (progress : Progress) :
    Except Stop (α × Given) := do
  let given ← (grammar.close env level progress).mapError .fault
  return (← (level.meaning given).mapError .fault, given)

/-- Words after the mark that ends the options. -/
def readArguments (argument : Option OptionSpec) :
    Progress → List String → Except UsageFault Progress
  | progress, [] => .ok progress
  | progress, text :: rest => do
    -- An option that waits for its value does not get one here.
    readArguments argument (← (← progress.settle).word argument text) rest

/-- The words after a level. -/
def readFrom (env : Environment) : Level α → Progress → List String → Except Stop (α × Given)
  | level, progress, [] => grammar.finish env level progress
  | level, progress, text :: rest =>
    if progress.wantsValue && !text.startsWith "-" || text = "-" then do
      readFrom env level (← (progress.word level.argument text).mapError .fault) rest
    else
      match grammar.level? (level.path ++ [text]) with
      | some inner => do
        let (meaning, given) ← readFrom env inner {} rest
        let outer ← (grammar.close env level progress).mapError .fault
        return (meaning, given.under outer)
      | none =>
        if text = "help" && grammar.goesOn level.path then .error (grammar.helpWith level.path rest)
        else
          match text.toList with
          | ['-', '-'] => do
            let progress ← (readArguments level.argument progress rest).mapError .fault
            grammar.finish env level progress
          | '-' :: '-' :: name => do
            let (name, attached) := match Text.splitFirst? ['='] name with
              | some (name, attached) => (name, some (String.ofList attached))
              | none => (name, none)
            readFrom env level
              (← grammar.readName level progress (String.ofList name) attached) rest
          | '-' :: letters => do
            readFrom env level (← grammar.readLetters level progress letters) rest
          | _ => do
            readFrom env level (← (progress.word level.argument text).mapError .fault) rest

/-- The command that a command line gives, with the values of its options. -/
def read (env : Environment) (words : List String) : Except Stop (α × Given) :=
  match grammar.level? [] with
  | some level => grammar.readFrom env level {} words
  | none => .error (.fault (.noCommand []))

end Grammar

end FieldAccess.CommandLine
