/-
The command line. It reads the surroundings of the process, has the invocation performed and prints
what comes of it.

The Telegram service is out of reach of this program, so only bots in memory can run.
-/

import BotHost.CommandLine.Execution
import BotHost.CommandLine.Usage
import BotHost.Json.Pretty
import Std.Time.DateTime.Timestamp

namespace BotHost

/-! ### The surroundings -/

/-- The text of a file, if there is one. A file without text is given as one that no format admits. -/
def readFile? (path : String) : IO (Option String) := do
  try
    let bytes ← IO.FS.readBinFile path
    return some ((String.fromUTF8? bytes).getD "\x00")
  catch _ => return none

/-- The variables of the process, which stand one behind another, each with a zero at its end. -/
def readEnvironment : IO (List (String × String)) := do
  let text := (← readFile? "/proc/self/environ").getD ""
  return (Text.splitOn '\x00' text.toList).filterMap fun entry =>
    match entry.dropWhile (· != '=') with
    | _ :: value => some (String.ofList (entry.takeWhile (· != '=')), String.ofList value)
    | [] => none

/-- The user's directory for configurations. -/
def readConfigDirectory : IO (Option String) := do
  match (← IO.getEnv "XDG_CONFIG_HOME").filter Path.isAbsolute with
  | some directory => return some directory
  | none => return (← IO.getEnv "HOME").map fun home => Path.join home ".config"

/-- The surroundings of the process, with the files that a loader may look at. -/
def readSurroundings (invocation : Invocation) : IO Surroundings := do
  let surroundings : Surroundings := {
    environment := ← readEnvironment
    directory := (← IO.currentDir).toString
    configDirectory := ← readConfigDirectory
    file? := fun _ => none }
  let paths := (invocation.loader surroundings).paths surroundings
  let files ← paths.mapM fun path => return (path, ← readFile? path)
  return { surroundings with
    file? := fun path => (files.find? fun file => file.1 == path).bind Prod.snd }

def readMoment : IO Moment := do
  let timestamp ← Std.Time.Timestamp.now
  let nanoseconds := timestamp.toNanosecondsSinceUnixEpoch.val
  return .ofSeconds (nanoseconds / 1000000000) (nanoseconds % 1000000000).toNat

/-! ### The program -/

/-- Waits until the process is interrupted. -/
partial def waitForInterrupt : IO Unit := do
  IO.sleep 1000
  waitForInterrupt

/-- Performs an invocation; the result is the exit code. -/
def performInvocation (invocation : Invocation) : IO UInt32 := do
  let surroundings ← readSurroundings invocation
  match invocation.perform surroundings .unreachable (← readMoment) with
  | .error fault =>
    fault.lines.forM IO.eprintln
    return 1
  | .ok (.report bots) =>
    IO.println bots.pretty
    return 0
  | .ok .brokenDown => return 101
  | .ok _ =>
    waitForInterrupt
    return 0

end BotHost

open BotHost in
/-- Exits with 0 after success, with 1 after a failure, with 2 if the arguments make no sense, and with 101 if
the process comes down. -/
def main (arguments : List String) : IO UInt32 := do
  match Asked.ofArguments? arguments with
  | some (.invocation invocation) => performInvocation invocation
  | some (.help command) =>
    (Usage.help command).forM IO.println
    return 0
  | some .version =>
    IO.println Usage.version
    return 0
  | none =>
    Usage.complaint.forM IO.eprintln
    return 2
