/-
Settings: what the host reads from its configuration. Every section and every field has a default, so
nothing has to be written to get a usable configuration.
-/

import BotHost.Bot.Basic
import BotHost.Time.Span

namespace BotHost

/-! ### The manager of running bots -/

/-- How long closing and opening a session may take, in milliseconds, and how many events may wait
for a running bot. -/
structure ManagerSettings where
  closeTimeout : Nat := 5000
  connectTimeout : Nat := 10000
  eventBuffer : Nat := 256
deriving DecidableEq, Repr

namespace ManagerSettings

def ofJson? (value : Json) : Option ManagerSettings := do
  let [closeTimeout, connectTimeout, eventBuffer] ←
    value.asRecord? ["close_timeout_ms", "connect_timeout_ms", "event_buffer"] | none
  let defaults : ManagerSettings := {}
  let closeTimeout ← Json.orDefault? defaults.closeTimeout Json.asUnsigned? closeTimeout
  let connectTimeout ← Json.orDefault? defaults.connectTimeout Json.asUnsigned? connectTimeout
  let eventBuffer ← Json.orDefault? defaults.eventBuffer Json.asUnsigned? eventBuffer
  some ⟨closeTimeout, connectTimeout, eventBuffer⟩

def toJson (settings : ManagerSettings) : Json :=
  .object [
    ("close_timeout_ms", .ofNat settings.closeTimeout),
    ("connect_timeout_ms", .ofNat settings.connectTimeout),
    ("event_buffer", .ofNat settings.eventBuffer)]

/-- The greatest number of events that a queue can be made for. -/
def greatestBuffer : Nat := 0x1fffffffffffffff

/-- Whether a queue for the events of a bot can be made. -/
def bufferFits (settings : ManagerSettings) : Bool :=
  0 < settings.eventBuffer && settings.eventBuffer ≤ greatestBuffer

end ManagerSettings

/-! ### The Telegram transport -/

/-- Where the service is, and for how many seconds a request for updates may be held. -/
structure TelegramSettings where
  apiBase : String := "https://api.telegram.org"
  pollTimeout : Nat := 30
deriving DecidableEq, Repr

namespace TelegramSettings

def ofJson? (value : Json) : Option TelegramSettings := do
  let [apiBase, pollTimeout] ← value.asRecord? ["api_base", "poll_timeout_secs"] | none
  let defaults : TelegramSettings := {}
  let apiBase ← Json.orDefault? defaults.apiBase Json.asText? apiBase
  let pollTimeout ← Json.orDefault? defaults.pollTimeout Json.asUnsigned? pollTimeout
  some ⟨apiBase, pollTimeout⟩

def toJson (settings : TelegramSettings) : Json :=
  .object [
    ("api_base", .text settings.apiBase),
    ("poll_timeout_secs", .ofNat settings.pollTimeout)]

end TelegramSettings

/-! ### Logging -/

/-- Severities, from the least to the most severe. -/
inductive LogLevel where
  | trace
  | debug
  | info
  | warn
  | error
deriving DecidableEq, Repr

namespace LogLevel

def all : List LogLevel := [.trace, .debug, .info, .warn, .error]

def name : LogLevel → String
  | .trace => "trace"
  | .debug => "debug"
  | .info => "info"
  | .warn => "warn"
  | .error => "error"

/-- The name as log lines show it. -/
def label : LogLevel → String
  | .trace => "TRACE"
  | .debug => "DEBUG"
  | .info => "INFO"
  | .warn => "WARN"
  | .error => "ERROR"

/-- How severe: more severe levels have lower ranks. -/
def rank : LogLevel → Nat
  | .error => 1
  | .warn => 2
  | .info => 3
  | .debug => 4
  | .trace => 5

def ofJson? (value : Json) : Option LogLevel := do
  let name ← value.asCaseName?
  all.find? fun level => level.name == name

def toJson (level : LogLevel) : Json := .text level.name

end LogLevel

/-- The layout of log lines. -/
inductive LogFormat where
  | compact
  | full
  | pretty
deriving DecidableEq, Repr

namespace LogFormat

def all : List LogFormat := [.compact, .full, .pretty]

def name : LogFormat → String
  | .compact => "compact"
  | .full => "full"
  | .pretty => "pretty"

def ofJson? (value : Json) : Option LogFormat := do
  let name ← value.asCaseName?
  all.find? fun format => format.name == name

def toJson (format : LogFormat) : Json := .text format.name

end LogFormat

/-- Where log lines go. -/
inductive LogOutput where
  | stdout
  | stderr
  | file
deriving DecidableEq, Repr

namespace LogOutput

def all : List LogOutput := [.stdout, .stderr, .file]

def name : LogOutput → String
  | .stdout => "stdout"
  | .stderr => "stderr"
  | .file => "file"

def ofJson? (value : Json) : Option LogOutput := do
  let name ← value.asCaseName?
  all.find? fun output => output.name == name

def toJson (output : LogOutput) : Json := .text output.name

end LogOutput

/-- Which events in the life of a span are logged. -/
structure SpanEvents where
  new : Bool := false
  enter : Bool := false
  exit : Bool := false
  close : Bool := false
deriving DecidableEq, Repr

namespace SpanEvents

def none : SpanEvents := {}

/-- The beginning and the end of a span. -/
def lifecycle : SpanEvents := { new := true, close := true }

def full : SpanEvents := ⟨true, true, true, true⟩

def ofJson? (value : Json) : Option SpanEvents := do
  let [new, enter, exit, close] ← value.asRecord? ["new", "enter", "exit", "close"] | .none
  let new ← Json.orDefault? false Json.asBoolean? new
  let enter ← Json.orDefault? false Json.asBoolean? enter
  let exit ← Json.orDefault? false Json.asBoolean? exit
  let close ← Json.orDefault? false Json.asBoolean? close
  some ⟨new, enter, exit, close⟩

def toJson (events : SpanEvents) : Json :=
  .object [
    ("close", .boolean events.close),
    ("enter", .boolean events.enter),
    ("exit", .boolean events.exit),
    ("new", .boolean events.new)]

end SpanEvents

/-- The level of each log target that has one of its own, in ascending order of the targets. -/
abbrev LogFilters := List (String × LogLevel)

structure LoggingSettings where
  level : LogLevel := .info
  format : LogFormat := .compact
  output : LogOutput := .stdout
  filePath : Option String := none
  filters : LogFilters := []
  spanEvents : SpanEvents := {}
  threadIds : Bool := false
  fileLocation : Bool := false
deriving DecidableEq, Repr

namespace LoggingSettings

def filtersOfJson? (value : Json) : Option LogFilters := do
  (← value.asObject?).mapM fun (target, level) => do some (target, ← LogLevel.ofJson? level)

def ofJson? (value : Json) : Option LoggingSettings := do
  let [level, format, output, filePath, filters, spanEvents, threadIds, fileLocation] ←
    value.asRecord? ["level", "format", "output", "file_path", "filters", "span_events",
      "thread_ids", "file_location"] | none
  let level ← Json.orDefault? .info LogLevel.ofJson? level
  let format ← Json.orDefault? .compact LogFormat.ofJson? format
  let output ← Json.orDefault? .stdout LogOutput.ofJson? output
  let filePath ← Json.orDefault? none (Json.asNullable? Json.asText?) filePath
  let filters ← Json.orDefault? [] filtersOfJson? filters
  let spanEvents ← Json.orDefault? .none SpanEvents.ofJson? spanEvents
  let threadIds ← Json.orDefault? false Json.asBoolean? threadIds
  let fileLocation ← Json.orDefault? false Json.asBoolean? fileLocation
  some ⟨level, format, output, filePath, filters, spanEvents, threadIds, fileLocation⟩

def toJson (settings : LoggingSettings) : Json :=
  .object [
    ("file_location", .boolean settings.fileLocation),
    ("file_path", .ofText? settings.filePath),
    ("filters", .object (settings.filters.map fun (target, level) => (target, level.toJson))),
    ("format", settings.format.toJson),
    ("level", settings.level.toJson),
    ("output", settings.output.toJson),
    ("span_events", settings.spanEvents.toJson),
    ("thread_ids", .boolean settings.threadIds)]

end LoggingSettings

/-! ### All sections -/

structure Settings where
  manager : ManagerSettings := {}
  logging : LoggingSettings := {}
  telegram : TelegramSettings := {}
  bots : List Bot := []
deriving DecidableEq, Repr

namespace Settings

def ofJson? (now : Moment) (value : Json) : Option Settings := do
  let [manager, logging, telegram, bots] ←
    value.asRecord? ["manager", "logging", "telegram", "bots"] | none
  let manager ← Json.orDefault? {} ManagerSettings.ofJson? manager
  let logging ← Json.orDefault? {} LoggingSettings.ofJson? logging
  let telegram ← Json.orDefault? {} TelegramSettings.ofJson? telegram
  let bots ← Json.orDefault? [] (Json.asListOf? (Bot.ofJson? now)) bots
  some ⟨manager, logging, telegram, bots⟩

def toJson (settings : Settings) : Json :=
  .object [
    ("bots", .list (settings.bots.map Bot.toJson)),
    ("logging", settings.logging.toJson),
    ("manager", settings.manager.toJson),
    ("telegram", settings.telegram.toJson)]

end Settings

end BotHost
