/-
What the program says about itself.
-/

import BotHost.CommandLine.Invocation

namespace BotHost.Usage

def programName : String := "block-runner"

def version : String := programName ++ " 0.1.0"

/-- What a command does. -/
def purpose : Command → String
  | .run => "Start every configured bot and run until Ctrl+C (default)"
  | .check => "Compile every configured bot and print its handlers as JSON"

/-- The options with what they do. -/
def options : List (String × String) := [
  ("-c, --config <CONFIG>   ", "Configuration file. Without it the standard locations are searched"),
  ("-p, --profile <PROFILE> ", "Configuration profile (development, production)"),
  ("    --memory            ", "Use the in-memory transport instead of Telegram"),
  ("-h, --help              ", "Print help"),
  ("-V, --version           ", "Print version")]

def entry (pair : String × String) : String := "  " ++ pair.1 ++ " " ++ pair.2

def programHelp : List String :=
  ["Runs the bots listed in a blockbot configuration file", "",
    "Usage: " ++ programName ++ " [OPTIONS] [COMMAND]", "", "Commands:"] ++
  [("run  ", purpose .run), ("check", purpose .check),
    ("help ", "Print this message or the help of the given subcommand(s)")].map entry ++
  ["", "Options:"] ++ options.map entry

def commandHelp (command : Command) : List String := [
  purpose command, "", "Usage: " ++ programName ++ " " ++ command.name, "", "Options:",
  entry ("-h, --help", "Print help")]

/-- The lines of the help on a command or on the whole program. -/
def help : Option Command → List String
  | some command => commandHelp command
  | none => programHelp

/-- What is said of arguments that make no sense. -/
def complaint : List String := [
  "error: invalid arguments", "", "Usage: " ++ programName ++ " [OPTIONS] [COMMAND]", "",
  "For more information, try '--help'."]

end BotHost.Usage
