/-
What the program does with its settings.

Every bot of the settings is registered with a host. A check compiles the bots and reports their
handlers and warnings by bot. A run starts one bot after another; it fails if there are none, or if
none of them starts, and otherwise goes on until it is interrupted. A number of the settings that what
runs cannot do with brings the process down when a bot is started with it.

How a bot is started is a function on a state of any kind, so that one run serves both transports.
-/

import BotHost.CommandLine.Invocation
import BotHost.Manager.Schedule
import BotHost.Settings.Loader
import BotHost.Telegram.Session

namespace BotHost

/-- Why the program fails. -/
inductive ExecutionFault where
  | settings (fault : SettingsFault)
  | manager (fault : ManagerFault)
  | noBots
  | noneStarted (configured : Nat)
deriving DecidableEq, Repr

namespace ExecutionFault

def message : ExecutionFault → String
  | .settings _ => "failed to load configuration"
  | .manager fault => fault.message
  | .noBots => "no bots configured"
  | .noneStarted configured => "none of the " ++ toString configured ++ " configured bots started"

/-- What a fault goes back to. -/
def cause? : ExecutionFault → Option String
  | .settings fault => some fault.message
  | .manager (.store fault) => some fault.message
  | _ => none

/-- The fault as the program reports it. -/
def lines (fault : ExecutionFault) : List String :=
  ("Error: " ++ fault.message) ::
    (fault.cause?.map fun cause => ["", "Caused by:", "    " ++ cause]).getD []

end ExecutionFault

/-- A host with these bots registered in order. -/
def Host.ofBots [PatternEngine] (settings : ManagerSettings) (bots : List Bot) :
    Except ManagerFault Host :=
  bots.foldlM (fun host bot =>
    let (result, host) := host.register bot
    result.map fun _ => host) { settings }

/-! ### Checking -/

/-- The handlers and warnings of every bot of a host. -/
def Host.report (host : Host) : Except ManagerFault Json := do
  let entries ← (← host.list).mapM fun bot => do
    let compilation ← host.preview bot.id
    return (bot.id, Json.ofFields [
      ("handlers", .list (Handler.summaries compilation.handlers)),
      ("warnings", .list (compilation.warnings.map Warning.toJson))])
  return .ofFields entries

/-! ### Running -/

/-- A way to start a bot: whether it has started, and what that makes of a state. There is neither if the
process comes down. -/
abbrev Start (State : Type) := Bot → State → Option (Bool × State)

/-- Starts bots one after another; also counts those that have started. -/
def startAll {State : Type} (start : Start State) (bots : List Bot) (state : State) :
    Option (Nat × State) :=
  bots.foldlM (fun (started, state) bot =>
    (start bot state).map fun (succeeded, state) =>
      (if succeeded then started + 1 else started, state)) (0, state)

/-- Runs bots. There is no state if the process comes down. -/
def runAll {State : Type} (start : Start State) (bots : List Bot) (state : State) :
    Except ExecutionFault (Option State) :=
  if bots.isEmpty then .error .noBots
  else
    match startAll start bots state with
    | none => .ok none
    | some (0, _) => .error (.noneStarted bots.length)
    | some (_, state) => .ok (some state)

/-- Starts a bot in memory. -/
def Schedule.start : Start Schedule := fun bot schedule =>
  let (number, schedule) := schedule.beginTask .start bot.id
  let schedule := schedule.await [.task number]
  let succeeded := match schedule.result? number with
    | some (.ok _) => true
    | _ => false
  if schedule.host.brokenDown then none else some (succeeded, schedule)

/-- What the Telegram service replies to a request at an address. -/
abbrev TelegramService := (address : String) → Telegram.Request → Telegram.Reply

/-- Nothing that is asked of this service gets a reply. -/
def TelegramService.unreachable : TelegramService := fun _ _ => .lost

/-- The Telegram transport with the sessions of the bots that have started. -/
structure TelegramRun where
  transport : Telegram.Transport
  sessions : List (String × Telegram.Session Unit) := []
deriving Repr

/-- The Telegram transport with these settings. -/
def TelegramSettings.transport (settings : TelegramSettings) : Telegram.Transport :=
  { apiBase := settings.apiBase, pollTimeout := settings.pollTimeout }

/-- What the service replies when it is asked who a bot is. -/
def TelegramService.introduction (service : TelegramService) (apiBase : String) (bot : Bot) :
    Telegram.Reply :=
  let request := Telegram.Request.getMe
  service (request.address (Telegram.methodBase apiBase bot.token)) request

/-- Starts a bot at the Telegram service. -/
def TelegramRun.start (service : TelegramService) (settings : ManagerSettings) :
    Start TelegramRun := fun bot run =>
  match run.transport.connect? bot.token (service.introduction run.transport.apiBase bot) with
  | none => none
  | some (.error _, transport) => some (false, { run with transport })
  | some (.ok session, transport) =>
    if settings.bufferFits then some (true, ⟨transport, run.sessions ++ [(bot.id, session)]⟩)
    else none

/-! ### Executing an invocation -/

/-- What comes of an invocation: a report, bots that run until the program is interrupted, or a process that
comes down. -/
inductive Execution where
  | report (bots : Json)
  | brokenDown
  | memory (schedule : Schedule)
  | telegram (run : TelegramRun)
deriving Repr

namespace Invocation

/-- The loader for an invocation. -/
def loader (invocation : Invocation) (surroundings : Surroundings) : Loader :=
  let usual := Loader.ofSurroundings surroundings
  { usual with
    profile := (invocation.profile.map Profile.ofName).getD usual.profile
    file := invocation.config.or usual.file }

/-- Executes an invocation with the settings it has loaded. -/
def execute [PatternEngine] (invocation : Invocation) (service : TelegramService)
    (settings : Settings) : Except ExecutionFault Execution := do
  let host ← (Host.ofBots settings.manager settings.bots).mapError .manager
  match invocation.command with
  | .check => (host.report.mapError .manager).map .report
  | .run =>
    let bots ← host.list.mapError .manager
    if invocation.memory then
      (runAll Schedule.start bots { host }).map fun state => state.elim .brokenDown .memory
    else
      let run : TelegramRun := { transport := settings.telegram.transport }
      (runAll (TelegramRun.start service settings.manager) bots run).map fun state =>
        state.elim .brokenDown .telegram

/-- Loads the settings of an invocation and executes it. -/
def perform [PatternEngine] (invocation : Invocation) (surroundings : Surroundings)
    (service : TelegramService) (now : Moment) : Except ExecutionFault Execution := do
  let settings ← ((invocation.loader surroundings).load surroundings now).mapError .settings
  invocation.execute service settings

end Invocation

/-! ### The engine of the program -/

namespace PatternEngine

/-- About how many bytes a pattern takes for a character of its trigger. A letter has to be found in both
cases. -/
def estimate (character : Char) : Nat :=
  if character.isAlpha then 80
  else if character.toNat < 0x80 then 32
  else 40 * (character.utf8Size + 1)

/-- The engine that the program runs with. How large its patterns get is only estimated, and matters to
triggers of ten thousand characters and more. -/
instance estimating : PatternEngine where
  fits trigger :=
    trigger.toList.foldl (fun size character => size + estimate character) 0 ≤ Matcher.patternLimit

end PatternEngine

end BotHost
