/-
The arguments of the program.

Options stand before the command, and a command ends them: nothing but a request for help on it may
follow. Two dashes end the options too, and then nothing at all may follow.

An option's value stands in the same argument, with or without an equals sign, or is the next argument
unless that looks like an option. A value in an argument of its own is not looked at before the next
option or the end is reached, so a request for help on a command comes before what is wrong with it.
-/

namespace BotHost

/-- What the program is to do. -/
inductive Command where
  | run
  | check
deriving DecidableEq, Repr

namespace Command

def all : List Command := [.run, .check]

def name : Command → String
  | .run => "run"
  | .check => "check"

def ofName? (name : String) : Option Command :=
  all.find? fun command => command.name == name

end Command

/-- An order to the program: a file and a profile to load instead of the usual ones, and whether the
bots are to live in memory only. -/
structure Invocation where
  config : Option String := none
  profile : Option String := none
  memory : Bool := false
  command : Command := .run
deriving DecidableEq, Repr

/-- What the arguments ask for. -/
inductive Asked where
  | help (command : Option Command)
  | version
  | invocation (invocation : Invocation)
deriving DecidableEq, Repr

namespace Invocation

/-! ### Options -/

/-- The options that have a value. -/
inductive Setting where
  | config
  | profile
deriving DecidableEq, Repr

/-- An option. -/
inductive Choice where
  | help
  | version
  | memory
  | setting (setting : Setting)
deriving DecidableEq, Repr

namespace Choice

/-- The option with a long name. -/
def ofName? : String → Option Choice
  | "help" => some .help
  | "version" => some .version
  | "memory" => some .memory
  | "config" => some (.setting .config)
  | "profile" => some (.setting .profile)
  | _ => none

/-- The option with a short name. -/
def ofLetter? : Char → Option Choice
  | 'h' => some .help
  | 'V' => some .version
  | 'c' => some (.setting .config)
  | 'p' => some (.setting .profile)
  | _ => none

end Choice

/-- An argument on its own. -/
inductive Argument where
  | option (choice : Choice) (value : Option String)
  | unknownOption
  | endOfOptions
  | word (text : String)
deriving DecidableEq, Repr

/-- A value behind a letter may be set off by an equals sign. -/
def valueBehindLetter : List Char → Option String
  | [] => none
  | '=' :: value => some (String.ofList value)
  | value => some (String.ofList value)

/-- The option that an argument names in full, with the value behind an equals sign. -/
def ofLongName (text : List Char) : Argument :=
  let name := text.takeWhile (· != '=')
  let value := match text.dropWhile (· != '=') with
    | [] => none
    | _ :: value => some (String.ofList value)
  match Choice.ofName? (String.ofList name) with
  | some (.setting setting) => .option (.setting setting) value
  | some choice => if value.isNone then .option choice none else .unknownOption
  | none => .unknownOption

/-- Help and version take effect at their letter, whatever comes behind it. -/
def ofLetters (letter : Char) (rest : List Char) : Argument :=
  match Choice.ofLetter? letter with
  | some (.setting setting) => .option (.setting setting) (valueBehindLetter rest)
  | some choice => .option choice none
  | none => .unknownOption

def classify (argument : String) : Argument :=
  match argument.toList with
  | ['-', '-'] => .endOfOptions
  | '-' :: '-' :: name => ofLongName name
  | '-' :: letter :: rest => ofLetters letter rest
  | _ => .word argument

/-! ### Taking effect -/

/-- Gives an option its value. No option is given twice, and no path is empty. -/
def assign (invocation : Invocation) (setting : Setting) (value : String) : Option Invocation :=
  match setting with
  | .config =>
    if invocation.config.isSome || value.isEmpty then none
    else some { invocation with config := some value }
  | .profile =>
    if invocation.profile.isSome then none else some { invocation with profile := some value }

/-- Reads what is left behind a command. -/
def readCommand (invocation : Option Invocation) (command : Command) (rest : List String) :
    Option Asked :=
  match rest.map classify with
  | [] | [.endOfOptions] =>
    invocation.map fun invocation => .invocation { invocation with command }
  | .option .help _ :: _ => some (.help (some command))
  | _ => none

/-- Reads what is left behind the word for help: the command to help with. -/
def readHelp : List String → Option Asked
  | [] | ["help"] => some (.help none)
  | [name] => (Command.ofName? name).map fun command => .help (some command)
  | _ => none

/-- Reads arguments from the first on. There is no invocation if the last value was not good. -/
def readFrom (invocation : Option Invocation) : List String → Option Asked
  | [] => invocation.map .invocation
  | argument :: rest =>
    match classify argument with
    | .option .help _ => invocation.map fun _ => .help none
    | .option .version _ => invocation.map fun _ => .version
    | .option .memory _ => do
      let invocation ← invocation
      if invocation.memory then none else readFrom (some { invocation with memory := true }) rest
    | .option (.setting setting) (some value) => do
      let invocation ← (← invocation).assign setting value
      readFrom (some invocation) rest
    | .option (.setting setting) none => do
      let invocation ← invocation
      match rest with
      | [] => none
      | value :: rest =>
        match classify value with
        | .word value => readFrom (invocation.assign setting value) rest
        | _ => none
    | .endOfOptions => if rest.isEmpty then invocation.map .invocation else none
    | .word "help" => readHelp rest
    | .word name => do readCommand invocation (← Command.ofName? name) rest
    | .unknownOption => none

end Invocation

/-- Reads the arguments of the program, if they make sense. -/
def Asked.ofArguments? (arguments : List String) : Option Asked :=
  Invocation.readFrom (some {}) arguments

end BotHost
