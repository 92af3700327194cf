/-
The numbers of accepted settings, and what runs with them.

Settings are accepted when none of their numbers is zero. What they are used for has limits above as
well: how long a request to the Telegram service may take is counted in 64 bits, and a queue for events
holds no more than a channel can be made for. The settings are not compared with these limits, so
accepted ones can bring the process down. As far as numbers go that is all: a run of accepted settings
breaks down on one exactly if a bot is started that needs a number beyond its limit. A run begins here when
logging has been set up, so nothing is said about a log file that cannot be opened.

A bot in memory needs its queue as soon as it is started, since nothing keeps its session from being
opened. A bot at the Telegram service needs the limit of its requests first, and its queue only if the
service accepts its token.
-/

import BotHost.CommandLine.Execution
import BotHost.Proofs.Manager.Scheduling
import BotHost.Proofs.Settings.Checking
import Mathlib

namespace BotHost

/-! ### What is started -/

/-- A bot as it is registered. -/
def Bot.stopped (bot : Bot) : Bot := { bot with status := .stopped }

/-- Bots of different identifiers are all registered, in their order. -/
theorem Host.ofBots_eq_ok [PatternEngine] {settings : ManagerSettings} {bots : List Bot}
    (distinct : (bots.map Bot.id).Nodup) :
    Host.ofBots settings bots = .ok { settings, store := ⟨bots.map Bot.stopped⟩ } := by
  induction bots using List.reverseRecOn with
  | nil => rfl
  | append_singleton bots bot inductionHypothesis =>
    rw [List.map_append, List.nodup_append] at distinct
    obtain ⟨before, _, new⟩ := distinct
    have absent : (BotStore.mk (bots.map Bot.stopped)).contains bot.id = false := by
      rw [BotStore.contains, BotStore.find?, Option.isSome_eq_false_iff, Option.isNone_iff_eq_none,
        List.find?_eq_none]
      intro stored member
      obtain ⟨other, there, rfl⟩ := List.mem_map.mp member
      have different := new other.id (List.mem_map_of_mem there) bot.id List.mem_cons_self
      simpa [Bot.stopped] using different
    have registered := inductionHypothesis before
    unfold Host.ofBots at registered ⊢
    rw [List.foldlM_append, registered]
    simp [Host.register, Host.storeInsert, Host.fails, BotStore.insert, absent, Except.map, bind,
      Except.bind, Bot.stopped, pure, Except.pure]

/-- If a start breaks down for some bots whatever the state is, it is for one of these that a start of all
breaks down. -/
theorem startAll_eq_none {State : Type} {start : Start State} {kept : State → Prop}
    {breaks : Bot → Prop}
    (each : ∀ bot state, kept state → (start bot state = none ↔ breaks bot))
    (keeps : ∀ bot state succeeded next, kept state → start bot state = some (succeeded, next) →
      kept next)
    {bots : List Bot} {state : State} (first : kept state) :
    startAll start bots state = none ↔ ∃ bot ∈ bots, breaks bot := by
  unfold startAll
  generalize 0 = started
  induction bots generalizing started state with
  | nil => simp
  | cons bot bots inductionHypothesis =>
    rw [List.foldlM_cons, List.exists_mem_cons_iff, ← each bot state first]
    cases outcome : start bot state with
    | none => simp only [outcome, Option.map_none, Option.bind_eq_bind, Option.bind_none, true_or]
    | some pair =>
      obtain ⟨succeeded, next⟩ := pair
      simp only [outcome, Option.map_some, Option.bind_eq_bind, Option.bind_some, reduceCtorEq,
        false_or]
      exact inductionHypothesis (keeps bot state succeeded next first outcome) _

theorem runAll_eq_none {State : Type} {start : Start State} {bots : List Bot} {state : State} :
    runAll start bots state = .ok none ↔ bots ≠ [] ∧ startAll start bots state = none := by
  unfold runAll
  cases bots with
  | nil => simp
  | cons bot bots =>
    rw [if_neg (by simp)]
    split <;> simp_all

/-! ### At the Telegram service -/

/-- The service accepts the token of a bot. -/
def TelegramSettings.Admits (settings : TelegramSettings) (service : TelegramService) (bot : Bot) :
    Prop :=
  ∃ user, (service.introduction settings.apiBase bot).outcome Telegram.User.ofJson? = .ok user

/-- The transport with the settings, whatever the number of its next session. -/
def TelegramSettings.Configures (settings : TelegramSettings) (transport : Telegram.Transport) :
    Prop :=
  transport.apiBase = settings.apiBase ∧ transport.pollTimeout = settings.pollTimeout

variable {telegram : TelegramSettings} {settings : ManagerSettings} {service : TelegramService}
  {run : TelegramRun} {bot : Bot}

theorem TelegramRun.start_eq_none (configured : telegram.Configures run.transport) :
    TelegramRun.start service settings bot run = none ↔
      telegram.transport.requestTimeout? = none ∨
        settings.bufferFits = false ∧ telegram.Admits service bot := by
  obtain ⟨base, timeout⟩ := configured
  have limit : run.transport.requestTimeout? = telegram.transport.requestTimeout? := by
    rw [Telegram.Transport.requestTimeout?, timeout]
    rfl
  unfold TelegramRun.start Telegram.Transport.connect? TelegramSettings.Admits
  rw [limit, base]
  cases telegram.transport.requestTimeout? with
  | none => simp
  | some limit =>
    rw [Option.map_some, Telegram.Transport.openSession]
    cases (service.introduction telegram.apiBase bot).outcome Telegram.User.ofJson? with
    | error fault => simp
    | ok user => cases settings.bufferFits <;> simp

theorem TelegramRun.configures_of_start (configured : telegram.Configures run.transport)
    {succeeded : Bool} {next : TelegramRun}
    (started : TelegramRun.start service settings bot run = some (succeeded, next)) :
    telegram.Configures next.transport := by
  unfold TelegramRun.start Telegram.Transport.connect? at started
  cases limit : run.transport.requestTimeout? with
  | none =>
    rw [limit] at started
    cases started
  | some seconds =>
    rw [limit, Option.map_some, Telegram.Transport.openSession] at started
    split at started
    next => cases started
    next opened =>
      cases started
      split at opened <;> cases opened
      exact configured
    next opened =>
      split at started
      · cases started
        split at opened <;> cases opened
        exact configured
      · cases started

theorem startAll_telegram {bots : List Bot} :
    startAll (TelegramRun.start service settings) bots { transport := telegram.transport } = none ↔
      ∃ bot ∈ bots, telegram.transport.requestTimeout? = none ∨
        settings.bufferFits = false ∧ telegram.Admits service bot :=
  @startAll_eq_none _ _ (fun run => telegram.Configures run.transport) _
    (fun _ _ => TelegramRun.start_eq_none)
    (fun _ _ _ _ configured => TelegramRun.configures_of_start configured)
    _ _ ⟨rfl, rfl⟩

/-! ### In memory -/

/-- The host after so many steps of a process, as long as it has one to take. -/
def Host.steps (process : Process) : Nat → Host → Host
  | 0, host => host
  | fuel + 1, host =>
    match host.advance process with
    | some next => next.steps process fuel
    | none => host

namespace Host

variable {host next : Host} {process : Process}

theorem steps_of_advance (stepped : host.advance process = some next) (fuel : Nat) :
    host.steps process (fuel + 1) = next.steps process fuel := by
  rw [steps, stepped]

/-- More steps of a process lead on from fewer. -/
theorem becomes_steps (process : Process) (fuel more : Nat) (host : Host) :
    (host.steps process fuel).Becomes (host.steps process (fuel + more)) := by
  induction fuel generalizing host with
  | zero =>
    rw [Nat.zero_add]
    induction more generalizing host with
    | zero => exact .refl host
    | succ more inductionHypothesis =>
      unfold steps
      cases stepped : host.advance process with
      | none => exact .refl host
      | some next =>
        have step : host.Becomes next := .of_move (show Host.after? _ (.step process) = _ from stepped)
        exact step.trans (inductionHypothesis next)
  | succ fuel inductionHypothesis =>
    rw [Nat.succ_add]
    unfold steps
    cases host.advance process with
    | none => exact .refl host
    | some next => exact inductionHypothesis next

/-- A host on which nothing but the start of a bot has begun. -/
def starting [PatternEngine] (settings : ManagerSettings) (store : BotStore) (bot : String)
    (state : TaskState) : Host :=
  { settings, store, locks := { locks := [⟨some 0, []⟩], names := [(bot, 0)] },
    tasks := [⟨.start, bot, some 0, state⟩] }

/-- The first bot that is started has a loop after its seventh step: it gets its lock, is looked up,
compiled and connected without having to wait for any of these. -/
theorem launched_of_found [PatternEngine] {settings : ManagerSettings} {store : BotStore}
    {bot : Bot} (found : store.find? bot.id = some bot) :
    (((({ settings, store } : Host).addTask .start bot.id).2.steps (.task 0) 7).loops).length = 1 := by
  let stage := starting settings store bot.id
  have asks : (({ settings, store } : Host).addTask .start bot.id).2.advance (.task 0) =
      some (stage (.waiting .lock)) := rfl
  have locks : (stage (.waiting .lock)).advance (.task 0) = some (stage (.answered .locked)) := rfl
  have begins : (stage (.answered .locked)).advance (.task 0) =
      some (stage (.waiting (.readToStart none))) := rfl
  have reads : (stage (.waiting (.readToStart none))).advance (.task 0) =
      some (stage (.answered (.readToStart none (.ok (some bot))))) := by
    have lookup : (stage (.waiting (.readToStart none))).storeFind bot.id = .ok (some bot) :=
      congrArg Except.ok found
    exact congrArg (fun answer => some (stage (.answered (.readToStart none answer)))) lookup
  have connects : (stage (.answered (.readToStart none (.ok (some bot))))).advance (.task 0) =
      some (stage (.waiting (.connect (compile bot.blocks).handlers bot.token 0
        (0 + settings.connectTimeout)))) := rfl
  rw [steps_of_advance asks, steps_of_advance locks, steps_of_advance begins, steps_of_advance reads,
    steps_of_advance connects]
  rfl

end Host

theorem Schedule.host_runProcess (process : Process) (fuel : Nat) (schedule : Schedule) :
    (runProcess process fuel schedule).host = schedule.host.steps process fuel := by
  induction fuel generalizing schedule with
  | zero => rfl
  | succ fuel inductionHypothesis =>
    unfold runProcess Host.steps
    cases schedule.host.advance process with
    | none => rfl
    | some next => exact inductionHypothesis (schedule.changed next)

theorem Host.brokenDown_eq_false {host : Host} (fits : host.settings.bufferFits = true) :
    host.brokenDown = false := by
  rw [brokenDown, fits, Bool.not_true, Bool.and_false]

/-- Where there has been a loop, a queue that cannot be made has brought the process down. -/
theorem Host.brokenDown_of_loop {host later : Host} (becomes : host.Becomes later)
    (launched : host.loops.length = 1) (unfit : host.settings.bufferFits = false) :
    later.brokenDown = true := by
  have more := becomes.nextGeneration_le
  rw [nextGeneration, nextGeneration, launched] at more
  have loops : later.loops ≠ [] := by
    intro none
    rw [none] at more
    exact absurd more (by decide)
  rw [brokenDown, becomes.settings, unfit]
  simpa using loops

namespace Schedule

/-- Starting a bot under the schedule is a run of the host. -/
theorem start_eq (schedule : Schedule) (bot : Bot) :
    ∃ later : Schedule, (schedule.beginTask .start bot.id).2.host.Becomes later.host ∧
      ∃ succeeded, start bot schedule =
        if later.host.brokenDown then none else some (succeeded, later) :=
  ⟨_, becomes_await _ _, _, rfl⟩

theorem start_of_fits {schedule : Schedule} (fits : schedule.host.settings.bufferFits = true)
    (bot : Bot) : ∃ succeeded later, start bot schedule = some (succeeded, later) ∧
      later.host.settings = schedule.host.settings := by
  obtain ⟨later, becomes, succeeded, started⟩ := schedule.start_eq bot
  have same := ((schedule.becomes_beginTask bot.id rfl).trans becomes).settings
  rw [Host.brokenDown_eq_false (same ▸ fits)] at started
  exact ⟨succeeded, later, started, same⟩

/-- If no queue can be made, the first start breaks down. -/
theorem start_of_unfit [PatternEngine] {settings : ManagerSettings} {store : BotStore} {bot : Bot}
    (found : store.find? bot.id = some bot) (unfit : settings.bufferFits = false) :
    start bot { host := { settings, store } } = none := by
  let first : Host := (({ settings, store } : Host).addTask .start bot.id).2
  obtain ⟨later, becomes, succeeded, started⟩ :=
    start_eq ({ host := { settings, store } } : Schedule) bot
  have begun : (({ host := { settings, store } } : Schedule).beginTask .start bot.id).2.host =
      first.steps (.task 0) (7 + (first.effort - 6)) := by
    have enough : first.effort + 1 = 7 + (first.effort - 6) := by
      have effort : first.effort = 68 := rfl
      omega
    rw [← enough]
    exact host_runProcess (.task 0) _ _
  have launched : (first.steps (.task 0) 7).loops.length = 1 := Host.launched_of_found found
  have goes := Host.becomes_steps (.task 0) 7 (first.effort - 6) first
  have same : (first.steps (.task 0) 7).settings = settings :=
    (Host.becomes_steps (.task 0) 0 7 first).settings
  rw [← begun] at goes
  rw [Host.brokenDown_of_loop (goes.trans becomes) launched (same ▸ unfit)] at started
  exact started

end Schedule

theorem startAll_memory [PatternEngine] {settings : ManagerSettings} {bots : List Bot}
    (some : bots ≠ []) :
    startAll Schedule.start bots { host := { settings, store := ⟨bots⟩ } } = none ↔
      settings.bufferFits = false := by
  cases fits : settings.bufferFits with
  | true =>
    have all := @startAll_eq_none _ Schedule.start (fun schedule => schedule.host.settings = settings)
      (fun _ => False) ?_ ?_ bots { host := { settings, store := ⟨bots⟩ } } rfl
    · simpa using all
    · intro bot schedule same
      obtain ⟨_, _, started, _⟩ := Schedule.start_of_fits (same ▸ fits) bot
      simp [started]
    · intro bot schedule succeeded next same started
      obtain ⟨_, later, started', kept⟩ := Schedule.start_of_fits (same ▸ fits) bot
      cases started.symm.trans started'
      exact kept.trans same
  | false =>
    obtain ⟨bot, rest, rfl⟩ := List.exists_cons_of_ne_nil some
    have found : (BotStore.mk (bot :: rest)).find? bot.id = Option.some bot :=
      List.find?_cons_of_pos (by simp)
    have breaks := Schedule.start_of_unfit found fits
    simp [startAll, breaks]

/-! ### Running accepted settings -/

theorem ManagerSettings.bufferFits_eq_false {settings : ManagerSettings}
    (positive : 0 < settings.eventBuffer) :
    settings.bufferFits = false ↔ greatestBuffer < settings.eventBuffer := by
  simp [bufferFits, positive]

theorem TelegramSettings.requestTimeout?_eq_none {settings : TelegramSettings} :
    settings.transport.requestTimeout? = none ↔
      2 ^ 64 ≤ settings.pollTimeout + Telegram.Transport.slack := by
  rw [Telegram.Transport.requestTimeout?, ite_eq_right_iff, ← Nat.not_lt]
  simp [transport]

/-- A request is given more time than it may be held, as long as 64 bits can count that. -/
theorem TelegramSettings.exceeds_iff {settings : TelegramSettings} :
    (∃ limit, settings.transport.requestTimeout? = some limit ∧ settings.pollTimeout < limit) ↔
      settings.pollTimeout + Telegram.Transport.slack < 2 ^ 64 := by
  rw [← Nat.not_le, ← requestTimeout?_eq_none]
  constructor
  · rintro ⟨limit, there, _⟩ none
    rw [none] at there
    cases there
  · intro some
    obtain ⟨limit, there⟩ := Option.ne_none_iff_exists'.mp some
    refine ⟨limit, there, ?_⟩
    unfold Telegram.Transport.requestTimeout? at there
    split at there
    · obtain rfl := Option.some.inj there
      exact Nat.lt_add_of_pos_right (by decide)
    · cases there

theorem Invocation.execute_check [PatternEngine] {settings : Settings} {invocation : Invocation}
    (check : invocation.command = .check) {service : TelegramService} :
    invocation.execute service settings ≠ .ok .brokenDown := by
  unfold execute
  rw [check]
  cases Host.ofBots settings.manager settings.bots with
  | error fault => nofun
  | ok host =>
    show (host.report.mapError ExecutionFault.manager).map Execution.report ≠ _
    cases host.report <;> nofun

theorem Invocation.execute_run [PatternEngine] {settings : Settings}
    (distinct : (settings.bots.map Bot.id).Nodup) {invocation : Invocation}
    (run : invocation.command = .run) (service : TelegramService) :
    invocation.execute service settings = if invocation.memory then
        (runAll Schedule.start (settings.bots.map Bot.stopped)
          { host := { settings := settings.manager, store := ⟨settings.bots.map Bot.stopped⟩ } }).map
            fun state => state.elim .brokenDown .memory
      else
        (runAll (TelegramRun.start service settings.manager) (settings.bots.map Bot.stopped)
          { transport := settings.telegram.transport }).map
            fun state => state.elim .brokenDown .telegram := by
  unfold execute
  rw [Host.ofBots_eq_ok distinct, run]
  rfl

theorem Except.map_elim_eq_brokenDown {State : Type} {ran : Except ExecutionFault (Option State)}
    {goesOn : State → Execution} (other : ∀ state, goesOn state ≠ .brokenDown) :
    (ran.map fun state => state.elim .brokenDown goesOn) = .ok .brokenDown ↔ ran = .ok none := by
  match ran with
  | .error fault => simp [Except.map]
  | .ok none => simp [Except.map]
  | .ok (some state) => simpa [Except.map] using other state

/-- A request is given more time than it may be held, and a queue can be made, exactly within the limits,
and once logging has been set up a run of accepted settings breaks down on a number exactly if a bot is
started that needs one beyond its limit. -/
theorem Settings.brokenDown_iff [PatternEngine] {settings : Settings}
    (accepted : settings.validate = .ok ()) :
    ((∃ limit, settings.telegram.transport.requestTimeout? = some limit ∧
        settings.telegram.pollTimeout < limit) ↔
      settings.telegram.pollTimeout + Telegram.Transport.slack < 2 ^ 64) ∧
    (settings.manager.bufferFits = true ↔
      settings.manager.eventBuffer ≤ ManagerSettings.greatestBuffer) ∧
    ∀ invocation : Invocation, ∀ service : TelegramService,
      invocation.execute service settings = .ok .brokenDown ↔
        invocation.command = .run ∧ if invocation.memory then
          settings.bots ≠ [] ∧ ManagerSettings.greatestBuffer < settings.manager.eventBuffer
        else
          ∃ bot ∈ settings.bots,
            2 ^ 64 ≤ settings.telegram.pollTimeout + Telegram.Transport.slack ∨
            ManagerSettings.greatestBuffer < settings.manager.eventBuffer ∧
              settings.telegram.Admits service bot := by
  have sound := Settings.validate_eq_ok_iff.mp accepted
  have unfit := ManagerSettings.bufferFits_eq_false sound.eventBuffer
  have distinct := sound.distinct
  refine ⟨TelegramSettings.exceeds_iff, ?_, fun invocation service => ?_⟩
  · rw [← Bool.not_eq_false, unfit, Nat.not_lt]
  cases command : invocation.command with
  | check =>
    simp only [reduceCtorEq, false_and, iff_false]
    exact Invocation.execute_check command
  | run =>
    rw [Invocation.execute_run distinct command, ← unfit, ← TelegramSettings.requestTimeout?_eq_none]
    cases invocation.memory with
    | true =>
      rw [if_pos rfl, if_pos rfl, Except.map_elim_eq_brokenDown nofun, runAll_eq_none, ne_eq,
        List.map_eq_nil_iff]
      simp only [true_and]
      refine and_congr_right fun some => startAll_memory ?_
      simpa using some
    | false =>
      rw [if_neg Bool.false_ne_true, if_neg Bool.false_ne_true,
        Except.map_elim_eq_brokenDown nofun, runAll_eq_none, startAll_telegram]
      simp only [true_and]
      constructor
      · rintro ⟨_, bot, member, breaks⟩
        obtain ⟨configured, there, rfl⟩ := List.mem_map.mp member
        exact ⟨configured, there, breaks⟩
      · rintro ⟨bot, there, breaks⟩
        have member := List.mem_map_of_mem (f := Bot.stopped) there
        exact ⟨List.ne_nil_of_mem member, bot.stopped, member, breaks⟩

attribute [local instance] PatternEngine.unlimited

/-- Settings with one bot, that hold their requests for this long and have this many events wait. -/
def Settings.withNumbers (pollTimeout eventBuffer : Nat) : Settings where
  manager := { eventBuffer }
  telegram := { apiBase := "http://127.0.0.1:9", pollTimeout }
  bots := [Bot.plain "b" "t1"]

/-- Accepted settings whose numbers fit in 64 bits break down: one that holds its requests for too long as
soon as it connects, and one with room for too many events even in memory. -/
theorem Settings.brokenDown_of_accepted :
    ((withNumbers (2 ^ 64 - 1) 256).validate = .ok () ∧
      (withNumbers (2 ^ 64 - 1) 256).telegram.transport.requestTimeout? = none ∧
      ({} : Invocation).execute .unreachable (withNumbers (2 ^ 64 - 1) 256) = .ok .brokenDown) ∧
    (withNumbers 30 (2 ^ 61)).validate = .ok () ∧
      (withNumbers 30 (2 ^ 61)).manager.bufferFits = false ∧
      ({ memory := true } : Invocation).execute .unreachable (withNumbers 30 (2 ^ 61)) =
        .ok .brokenDown :=
  ⟨⟨rfl, rfl, rfl⟩, rfl, rfl, rfl⟩

/-- The greatest numbers that are within the limits. -/
theorem Settings.brokenDown_iff_greatest :
    (Settings.withNumbers (2 ^ 64 - 11) (2 ^ 61 - 1)).validate = .ok () ∧
      ∀ service, ({} : Invocation).execute service (.withNumbers (2 ^ 64 - 11) (2 ^ 61 - 1)) ≠
        .ok .brokenDown := by
  have accepted : (Settings.withNumbers (2 ^ 64 - 11) (2 ^ 61 - 1)).validate = .ok () := rfl
  refine ⟨accepted, fun service down => ?_⟩
  obtain ⟨_, bot, _, late | ⟨large, _⟩⟩ :=
    ((Settings.brokenDown_iff accepted).2.2 {} service).mp down
  · exact absurd late (by decide)
  · exact absurd large (by decide)

end BotHost
