/-
Setting up logging: from settings and directives to where lines go and which events are shown. What
has been set up stays until the end of the program.
-/

import BotHost.Logging.Filter
import BotHost.Text.Path

namespace BotHost

/-- Where lines end up. -/
inductive LogSink where
  | stdout
  | stderr
  | file (directory name : String)
deriving DecidableEq, Repr

structure LoggingBuilder where
  settings : LoggingSettings
  directives : List String
deriving Repr

/-- Logging that has been set up. -/
structure Logging where
  sink : LogSink
  filter : LogFilter
  format : LogFormat
  spanEvents : SpanEvents
  threadIds : Bool
  fileLocation : Bool
  fileUnusable : Bool
deriving Repr

namespace LoggingBuilder

/-- The filters of the settings as directives, in ascending order. -/
def ofSettings (settings : LoggingSettings) : LoggingBuilder where
  settings
  directives := (settings.filters.map fun (target, level) =>
    target ++ "=" ++ level.name).mergeSort (· ≤ ·)

def level (builder : LoggingBuilder) (level : LogLevel) : LoggingBuilder :=
  { builder with settings := { builder.settings with level } }

/-- Adds a directive behind the others. -/
def directive (builder : LoggingBuilder) (directive : String) : LoggingBuilder :=
  { builder with directives := builder.directives ++ [directive] }

def format (builder : LoggingBuilder) (format : LogFormat) : LoggingBuilder :=
  { builder with settings := { builder.settings with format } }

def spanEvents (builder : LoggingBuilder) (spanEvents : SpanEvents) : LoggingBuilder :=
  { builder with settings := { builder.settings with spanEvents } }

/-- Sends lines to a file. -/
def logFile (builder : LoggingBuilder) (path : String) : LoggingBuilder :=
  { builder with settings := { builder.settings with output := .file, filePath := some path } }

def stderr (builder : LoggingBuilder) : LoggingBuilder :=
  { builder with settings := { builder.settings with output := .stderr } }

/-- Where the lines are to go, and whether that is where they were asked to go: without a usable path
they go to the standard output instead of a file. -/
def sink (builder : LoggingBuilder) : LogSink × Bool :=
  match builder.settings.output, builder.settings.filePath with
  | .stdout, _ => (.stdout, true)
  | .stderr, _ => (.stderr, true)
  | .file, some path =>
    match Path.fileName? path with
    | some name => (.file (Path.directory path) name, true)
    | none => (.stdout, false)
  | .file, none => (.stdout, false)

/-- The filter that the environment asks for, or else the level of the settings, with the directives
on top. Directives that cannot be read are left out. -/
def filter (builder : LoggingBuilder) (environment : Option String) : LogFilter :=
  let base := (environment.bind LogFilter.ofText?).getD
    (.ofDirectives [{ threshold := some builder.settings.level }])
  (builder.directives.filterMap Directive.ofText?).foldl LogFilter.add base

/-- What the builder sets up. -/
def build (builder : LoggingBuilder) (environment : Option String) : Logging :=
  let (sink, usable) := builder.sink
  { sink
    filter := builder.filter environment
    format := builder.settings.format
    spanEvents := builder.settings.spanEvents
    threadIds := builder.settings.threadIds
    fileLocation := builder.settings.fileLocation || builder.settings.format == .pretty
    fileUnusable := !usable }

/-- Sets logging up, unless that has been done before. Says whether it was done now. -/
def install (builder : LoggingBuilder) (environment : Option String) (current : Option Logging) :
    Bool × Option Logging :=
  match current with
  | some logging => (false, some logging)
  | none => (true, some (builder.build environment))

end LoggingBuilder

namespace Logging

/-- The variable with directives in place of the level. -/
def environmentName : String := "RUST_LOG"

/-- The target of the warning about a file that is not usable. -/
def ownTarget : String := "blockbot_runtime::logging"

/-- Whether the warning about a file that is not usable is shown. -/
def warns (logging : Logging) : Bool :=
  logging.fileUnusable && logging.filter.showsEvent ownTarget .warn

end Logging

end BotHost
