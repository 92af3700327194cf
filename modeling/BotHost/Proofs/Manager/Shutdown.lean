/-
What a shutdown comes to.

A shutdown begins to stop every bot that runs and waits for all of the stops. These go on at once, each in
its own time, and along with them go such tasks as reap. If no call was under way when the shutdown began,
and none is begun before it returns, then each bot that ran has only its stop and those that reap, and
whoever of them is first ends its instance. A bot that did not run has at most tasks that reap and find
nothing. So every bot can be followed by itself, and the shutdown is made up of what is known of each.

The stops are begun in the ascending order of their bots, and in this order their faults are returned. That
a schedule lets each go as far as it can before it begins the next makes no difference.
-/

import BotHost.Proofs.Manager.Latecomers
import BotHost.Proofs.Manager.Overrunning

namespace BotHost

namespace Host

/-! ### What a shutdown returns -/

/-- The bots that a shutdown stops, each with the task that stops it. -/
def shutdownStops (host : Host) : List (String × TaskNumber) :=
  host.runningIds.zipIdx host.tasks.length

/-- The fault that a task has returned with. -/
def fault? (host : Host) (number : TaskNumber) : Option ManagerFault :=
  (host.task? number).bind fun task =>
    match task.state with
    | .finished (.error fault) => some fault
    | _ => none

/-- What a shutdown returns: the faults of its stops, in their order. -/
def shutdownFaults (first last : Host) : List ManagerFault :=
  first.shutdownStops.filterMap fun stop => last.fault? stop.2

/-- All stops of a shutdown have returned. -/
def HasShutDown (first last : Host) : Prop :=
  ∀ stop ∈ first.shutdownStops, ∃ task, last.task? stop.2 = some task ∧ task.state.ended = true

section

variable (first : Host) (moves : List Move) (last : Host)

/-- What has become of a bot that ran as an instance and had a record, when its stop has returned. Its status
tells whether it was this stop that ended the instance, or a task that was to reap the instance, whose
session had ended before. -/
structure Dismissed (number : TaskNumber) (running : Instance) (stored : Bot) : Prop where
  gone : last.running? running.bot = none
  dead : ∀ {generation : Nat} {loop : SessionLoop}, last.loop? generation = some loop →
    loop.bot = running.bot → loop.state = .finished
  stopped : first.Removes moves number running →
    last.store.find? running.bot = some { stored with status := .stopped }
  reaped : ¬first.Removes moves number running →
    last.store.find? running.bot = some { stored with status := .error } ∧
      ∃ reaper, first.RemovesEnded moves reaper running

/-- The stop of a shutdown has ended the instance of its bot, and had to wait too long for the loop or for
the session. -/
def Overdue (bot : String) (number : TaskNumber) : Prop :=
  ∃ running, first.running? bot = some running ∧ first.Removes moves number running ∧
    ¬InTime number running (first.stepsOf number moves)

/-- What a shutdown has come to that was begun in the first host and has returned in the last: for each bot
that ran, for all others, and in what it returns. On a clock that waits for a stop, what is overdue is known
beforehand: a loop that has more to do, or a session that takes longer to close, than the stop waits for. -/
structure ShutDown : Prop where
  dismissed : ∀ {bot : String} {running : Instance}, first.running? bot = some running →
    ∃ number stored, (bot, number) ∈ first.shutdownStops ∧ first.store.find? bot = some stored ∧
      Dismissed first moves last number running stored
  apart : ∀ {bot : String} {number : TaskNumber}, (bot, number) ∈ first.shutdownStops →
    ∀ step ∈ first.stepsOf number moves, ∀ other, other ≠ bot →
      step.2.store.find? other = step.1.store.find? other
  spared : ∀ {other : String} {stored : Bot}, first.running? other = none →
    first.store.find? other = some stored →
      (∀ task ∈ first.tasks, task.bot = other → task.state.inside = false) →
        last.store.find? other = some stored
  faults : ∃ late : List String, late.Pairwise (· < ·) ∧
    (∀ bot, bot ∈ late ↔
      ∃ number, (bot, number) ∈ first.shutdownStops ∧ Overdue first moves bot number) ∧
    first.shutdownFaults last = late.map fun bot => .closeTimeout bot first.settings.closeTimeout
  timed : ∀ {bot : String} {number : TaskNumber} {running : Instance} {before after : List Move}
    {told next : Host}, (bot, number) ∈ first.shutdownStops → first.running? bot = some running →
      moves = before ++ .step (.task number) :: after → Run first before told →
        told.after? (.step (.task number)) = some next → Unseats running (told, next) →
          Paced number running.generation told (.step (.task number) :: after) →
            told.busyFor running.generation ≠ first.settings.closeTimeout →
              told.transport.closeDelay ≠ first.settings.closeTimeout →
      (Overdue first moves bot number ↔ first.settings.closeTimeout < told.busyFor running.generation ∨
        first.settings.closeTimeout < told.transport.closeDelay)

end

variable {first host next last : Host} {number : TaskNumber} {task record : Task} {bot other : String}
  {running : Instance} {stored : Bot} {move : Move} {moves : List Move}

/-! ### The stops of a shutdown -/

/-- Shutting down adds a stop for each bot that runs, and nothing else. -/
theorem stopAll_eq (host : Host) : host.stopAll = { host with
    tasks := host.tasks ++ host.runningIds.map fun bot => ⟨.stop, bot, none, .created⟩ } := by
  have all (bots : List String) (host : Host) :
      bots.foldl (fun host bot => (host.addTask .stop bot).2) host = { host with
        tasks := host.tasks ++ bots.map fun bot => ⟨.stop, bot, none, .created⟩ } := by
    induction bots generalizing host with
    | nil => simp
    | cons bot bots inductionHypothesis =>
      rw [List.foldl_cons, inductionHypothesis]
      simp [addTask]
  exact all host.runningIds host

theorem mem_runningIds : bot ∈ host.runningIds ↔ (host.running? bot).isSome = true := by
  rw [runningIds, List.mem_mergeSort, running?, List.find?_isSome]
  simp

/-- The bots that run are listed in ascending order, each once. -/
theorem runningIds_ascending (distinct : host.Distinct) : host.runningIds.Pairwise (· < ·) := by
  have sorted : host.runningIds.Pairwise (· ≤ ·) := by
    simpa [runningIds] using List.pairwise_mergeSort' (· ≤ ·) (host.registry.map Instance.bot)
  have nodup : host.runningIds.Nodup :=
    (List.mergeSort_perm _ _).nodup_iff.mpr distinct
  exact (sorted.and nodup).imp fun both => lt_of_le_of_ne both.1 both.2

/-- The stops of a shutdown come after all other tasks, in the order of their bots. -/
theorem mem_shutdownStops : (bot, number) ∈ host.shutdownStops ↔
    host.tasks.length ≤ number ∧ host.runningIds[number - host.tasks.length]? = some bot :=
  List.mk_mem_zipIdx_iff_le_and_getElem?_sub

/-- Every registered bot has its stop. -/
theorem exists_shutdownStop (registered : host.running? bot = some running) :
    ∃ number, (bot, number) ∈ host.shutdownStops := by
  have member : bot ∈ host.runningIds := mem_runningIds.mpr (by rw [registered]; rfl)
  obtain ⟨index, bound, rfl⟩ := List.getElem_of_mem member
  refine ⟨host.tasks.length + index, mem_shutdownStops.mpr ⟨Nat.le_add_right .., ?_⟩⟩
  rw [Nat.add_sub_cancel_left]
  exact List.getElem?_eq_getElem bound

/-- Every stop has a registered bot. -/
theorem registered_of_stop (member : (bot, number) ∈ host.shutdownStops) :
    ∃ running, host.running? bot = some running :=
  Option.isSome_iff_exists.mp
    (mem_runningIds.mp (List.mem_of_getElem? (mem_shutdownStops.mp member).2))

/-- The stop of a bot is a task of its own, which has not begun. -/
theorem task?_stopAll (member : (bot, number) ∈ host.shutdownStops) :
    host.stopAll.task? number = some ⟨.stop, bot, none, .created⟩ := by
  obtain ⟨later, there⟩ := mem_shutdownStops.mp member
  rw [stopAll_eq, task?, List.getElem?_append_right later, List.getElem?_map, there, Option.map_some]

/-- A task is one of those before a shutdown, or one of its stops. -/
theorem task?_of_stopAll (found : host.stopAll.task? number = some task) :
    host.task? number = some task ∨
      (task.bot, number) ∈ host.shutdownStops ∧ task = ⟨.stop, task.bot, none, .created⟩ := by
  rw [stopAll_eq, task?, List.getElem?_append] at found
  split at found
  · exact .inl found
  next late =>
    rw [List.getElem?_map] at found
    obtain ⟨bot, there, rfl⟩ := Option.map_eq_some_iff.mp found
    exact .inr ⟨mem_shutdownStops.mpr ⟨Nat.le_of_not_lt late, there⟩, rfl⟩

/-- No bot has two stops. -/
theorem stop_unique (distinct : host.Distinct) (member : (bot, number) ∈ host.shutdownStops)
    {other : TaskNumber} (member' : (bot, other) ∈ host.shutdownStops) : other = number := by
  obtain ⟨later, there⟩ := mem_shutdownStops.mp member
  obtain ⟨later', there'⟩ := mem_shutdownStops.mp member'
  have nodup : host.runningIds.Nodup := (runningIds_ascending distinct).imp fun less => ne_of_lt less
  obtain ⟨bound, same⟩ := List.getElem?_eq_some_iff.mp there
  obtain ⟨bound', same'⟩ := List.getElem?_eq_some_iff.mp there'
  have index : other - host.tasks.length = number - host.tasks.length :=
    nodup.getElem_inj_iff.mp (same'.trans same.symm)
  rw [← Nat.sub_add_cancel later', index, Nat.sub_add_cancel later]

/-! ### Where a shutdown begins -/

/-- What nobody has called for is a reap. -/
theorem ending?_of_not_isCall {operation : Operation} (not : operation.isCall = false) :
    operation.ending? = some .reaping := by
  cases operation <;> first | rfl | cases not

/-- The tasks that are under way when a shutdown begins are such as reap, and its stops. -/
theorem Calm.ending? (calm : host.Calm) (found : host.stopAll.task? number = some task)
    (unended : task.state.ended = false) :
    task.operation.ending? = some .reaping ∨
      task.operation = .stop ∧ (task.bot, number) ∈ host.shutdownStops := by
  rcases task?_of_stopAll found with before | ⟨member, same⟩
  · left
    refine ending?_of_not_isCall ?_
    by_contra isCall
    rw [calm.ended before (by simpa using isCall)] at unended
    cases unended
  · exact .inr ⟨by rw [same], member⟩

/-- On a calm host a shutdown has nothing but ends under way. -/
theorem Calm.onlyEnds (calm : host.Calm) (bot : String) : host.stopAll.OnlyEnds bot := by
  constructor
  intro number task found _ unended
  rcases calm.ending? found unended with reaps | ⟨stops, _⟩
  · exact ⟨_, reaps⟩
  · exact ⟨.stopping, by rw [stops]; rfl⟩

/-- On a calm host the end of each bot is left to its stop. -/
theorem Calm.leftTo (calm : host.Calm) (distinct : host.Distinct)
    (member : (bot, number) ∈ host.shutdownStops) : host.stopAll.LeftTo number bot where
  called := ⟨none, .created, task?_stopAll member⟩
  only := calm.onlyEnds bot
  sole := by
    intro other task found ofBot unended stops
    rcases calm.ending? found unended with reaps | ⟨_, member'⟩
    · rw [stops] at reaps
      cases reaps
    · rw [ofBot] at member'
      exact stop_unique distinct member member'

/-- To begin with the instance runs, and its end is left to the stop. -/
theorem Entrusted.begins (calm : host.Calm) (reachable : host.Reachable)
    (member : (running.bot, number) ∈ host.shutdownStops)
    (registered : host.running? running.bot = some running)
    (still : host.store.find? running.bot = some stored) :
    Entrusted host.stopAll [] host.stopAll number running stored where
  left := calm.leftTo reachable.distinct member
  fate := by
    refine .runs ?_ ?_ fun other => ?_
    · rw [stopAll_eq]
      exact registered
    · rw [stopAll_eq]
      exact still
    · rintro ⟨step, none, _⟩
      cases none
  returned := by
    intro task found ended
    obtain rfl := Option.some.inj ((task?_stopAll member).symm.trans found)
    cases ended

/-! ### In the course of a shutdown -/

/-- What holds throughout a run holds before its last move and throughout the moves up to it. -/
theorem Throughout.concat {holds : Host → Prop} (throughout : Throughout holds first (moves ++ [move]))
    (run : Run first moves host) : Throughout holds first moves ∧ holds host := by
  constructor
  · intro before later middle split run
    have longer : moves ++ [move] = before ++ (later ++ [move]) := by rw [split, List.append_assoc]
    exact throughout longer run
  · exact throughout rfl run

/-- What is kept by moves that begin no calls, while the store works. -/
theorem Run.keeps_quiet {kept : List Move → Host → Prop} (begins : kept [] first)
    (each : ∀ {moves : List Move} {host next : Host} {move : Move}, Run first moves host →
      kept moves host → host.Serves → move.isCall = false → host.after? move = some next →
        kept (moves ++ [move]) next)
    (run : Run first moves last) (quiet : ∀ move ∈ moves, move.isCall = false)
    (serves : Throughout Serves first moves) : kept moves last := by
  refine @keeps_history _ _ _ (fun moves host => (∀ move ∈ moves, move.isCall = false) →
    Throughout Serves first moves → kept moves host) (fun _ _ => begins) ?_ run quiet serves
  intro moves host next move run earlier made quiet serves
  obtain ⟨before, now⟩ := List.forall_mem_append.mp quiet
  obtain ⟨served, serving⟩ := serves.concat run
  exact each run (earlier before served) serving (now move List.mem_cons_self) made

/-- A step of a task in the course of a run is a move of it, at some point of the run. -/
theorem Run.mem_stepsOf {step : Host × Host} (run : Run first moves last)
    (member : step ∈ first.stepsOf number moves) :
    ∃ before, Run first before step.1 ∧ step.1.after? (.step (.task number)) = some step.2 := by
  have all : ∀ step ∈ first.stepsOf number moves,
      ∃ before, Run first before step.1 ∧ step.1.after? (.step (.task number)) = some step.2 := by
    refine @keeps_history _ _ _ (fun moves _ => ∀ step ∈ first.stepsOf number moves,
      ∃ before, Run first before step.1 ∧ step.1.after? (.step (.task number)) = some step.2) nofun ?_ run
    intro moves host next move run earlier made
    by_cases own : move = .step (.task number)
    · subst own
      rw [run.stepsOf_self made]
      exact List.forall_mem_append.mpr ⟨earlier, List.forall_mem_singleton.mpr ⟨moves, run, made⟩⟩
    · rw [run.stepsOf_of_ne made own]
      exact earlier
  exact all step member

/-- What comes after the beginning of a run. -/
theorem Run.rest_of_append {middle : Host} {others : List Move} (run : Run first moves middle)
    (whole : Run first (moves ++ others) last) : Run middle others last := by
  induction run with
  | rest => exact whole
  | move made _ inductionHypothesis =>
    cases whole with
    | move made' whole =>
      obtain rfl := Option.some.inj (made.symm.trans made')
      exact inductionHypothesis whole

/-- The bot of an entrusted instance is stored, and does not run but as this instance. -/
theorem Entrusted.known {stop : TaskNumber} (entrusted : Entrusted first moves host stop running stored) :
    (host.store.find? running.bot).isSome = true ∧
      ∀ other, host.running? running.bot = some other → other = running := by
  cases entrusted.fate with
  | runs registered still =>
    exact ⟨by rw [still]; rfl, fun other same => Option.some.inj (same.symm.trans registered)⟩
  | owed _ _ _ gone still =>
    exact ⟨by rw [still]; rfl, fun other same => absurd (gone.symm.trans same) nofun⟩
  | recorded _ rests =>
    exact ⟨by rw [rests.still]; rfl, fun other same => absurd (rests.gone.symm.trans same) nofun⟩

/-- How far the end of an instance has come, and what its stop has met with at all its steps. -/
theorem Run.entrusted {stop : TaskNumber} (reachable : first.Reachable) (run : Run first moves last)
    (quiet : ∀ move ∈ moves, move.isCall = false) (serves : Throughout Serves first moves)
    (begins : Entrusted first [] first stop running stored) :
    Entrusted first moves last stop running stored ∧ ∀ step ∈ first.stepsOf stop moves,
      step.1.Serves ∧ (step.1.store.find? running.bot).isSome = true ∧
        ∀ other, step.1.running? running.bot = some other → other = running := by
  refine @keeps_quiet _ _ _ (fun moves host => Entrusted first moves host stop running stored ∧
    ∀ step ∈ first.stepsOf stop moves, step.1.Serves ∧
      (step.1.store.find? running.bot).isSome = true ∧
        ∀ other, step.1.running? running.bot = some other → other = running) ⟨begins, nofun⟩ ?_ run quiet
          serves
  rintro moves host next move run ⟨entrusted, met⟩ serving quiet made
  refine ⟨entrusted.concat (reachable.run run) run serving made quiet, ?_⟩
  by_cases own : move = .step (.task stop)
  · subst own
    rw [run.stepsOf_self made]
    exact List.forall_mem_append.mpr
      ⟨met, List.forall_mem_singleton.mpr ⟨serving, entrusted.known⟩⟩
  · rw [run.stepsOf_of_ne made own]
    exact met

/-- What a shutdown does not stop keeps its record, unless it is just being reaped. -/
theorem Run.keeps_record (reachable : first.Reachable) (run : Run first moves last)
    (quiet : ∀ move ∈ moves, move.isCall = false) (serves : Throughout Serves first moves)
    (only : first.OnlyEnds bot) (rests : first.Rests bot stored) : last.Rests bot stored := by
  have kept : last.OnlyEnds bot ∧ last.Rests bot stored := by
    refine @keeps_quiet _ _ _ (fun _ host => host.OnlyEnds bot ∧ host.Rests bot stored) ⟨only, rests⟩ ?_
      run quiet serves
    rintro moves host next move run ⟨only, rests⟩ _ quiet made
    exact ⟨only.after made quiet, rests.after (reachable.run run) only made⟩
  exact kept.2

/-! ### When a shutdown has returned -/

section

variable (reachable : host.Reachable) (calm : host.Calm) (run : Run host.stopAll moves last)
  (quiet : ∀ move ∈ moves, move.isCall = false) (serves : Throughout Serves host.stopAll moves)
  (returned : host.HasShutDown last) (member : (running.bot, number) ∈ host.shutdownStops)
  (registered : host.running? running.bot = some running)

theorem Reachable.stopAll (reachable : host.Reachable) : host.stopAll.Reachable :=
  reachable.run (.move (show host.after? .shutdown = some host.stopAll from rfl) (.rest _))

include reachable calm run quiet serves returned member registered

/-- Every bot that was registered when the host shut down is dismissed. -/
theorem dismissed_of_shutdown : ∃ stored, host.store.find? running.bot = some stored ∧
    Dismissed host (.shutdown :: moves) last number running stored := by
  obtain ⟨stored, still, _⟩ := Option.map_eq_some_iff.mp (reachable.upToDate.registered registered)
  have begins := Entrusted.begins calm reachable member registered still
  obtain ⟨entrusted, _⟩ := run.entrusted reachable.stopAll quiet serves begins
  obtain ⟨task, found, ended⟩ := returned _ member
  obtain ⟨taker, ending, taken, rests⟩ := entrusted.concludes found ended
  refine ⟨stored, still, rests.gone,
    rests.finished (reachable.stopAll.run run) entrusted.left.only, fun removes => ?_, fun spares => ?_⟩
  · obtain rfl : number = taker := (taken.sole number).mp removes
    rcases taken.who with ⟨_, rfl⟩ | ⟨other, _⟩
    · exact rests.still
    · exact absurd rfl other
  · rcases taken.who with ⟨rfl, _⟩ | ⟨_, rfl, reaped⟩
    · exact absurd ((taken.sole taker).mpr rfl) spares
    · exact ⟨rests.still, taker, reaped⟩

/-- The stop of a bot returns a fault exactly when it is overdue. -/
theorem fault?_of_shutdown :
    Overdue host (.shutdown :: moves) running.bot number ∧
        last.fault? number = some (.closeTimeout running.bot host.settings.closeTimeout) ∨
      ¬Overdue host (.shutdown :: moves) running.bot number ∧ last.fault? number = none := by
  obtain ⟨stored, still, _⟩ := Option.map_eq_some_iff.mp (reachable.upToDate.registered registered)
  have begins := Entrusted.begins calm reachable member registered still
  obtain ⟨_, met⟩ := run.entrusted reachable.stopAll quiet serves begins
  obtain ⟨task, found, ended⟩ := returned _ member
  have overdue : Overdue host (.shutdown :: moves) running.bot number ↔
      (∃ step ∈ host.stopAll.stepsOf number moves, Unseats running step) ∧
        ¬InTime number running (host.stopAll.stepsOf number moves) := by
    constructor
    · rintro ⟨other, registered', late⟩
      obtain rfl := Option.some.inj (registered'.symm.trans registered)
      exact late
    · exact fun late => ⟨running, registered, late⟩
  obtain ⟨result, finished⟩ := exists_result ended
  have reports := Run.reports reachable.stopAll (task?_stopAll member) run
    (fun step member => (met step member).1) (fun step member => (met step member).2.1) found finished
  have settings : host.stopAll.settings = host.settings := by rw [stopAll_eq]
  rw [settings] at reports
  rw [overdue]
  refine (reports.cases fun step member => (met step member).2.2).imp ?_ ?_
  · rintro ⟨late, rfl⟩
    exact ⟨late, by simp [fault?, found, finished]⟩
  · rintro ⟨inTime, rfl⟩
    exact ⟨inTime, by simp [fault?, found, finished]⟩

/-- On a clock that waits for a stop it is settled, when the stop ends the instance, whether that will be
overdue. -/
theorem overdue_iff_of_paced {before after : List Move} {told : Host}
    (split : moves = before ++ .step (.task number) :: after) (onset : Run host.stopAll before told)
    (made : told.after? (.step (.task number)) = some next) (unseats : Unseats running (told, next))
    (paced : Paced number running.generation told (.step (.task number) :: after))
    (apart : told.busyFor running.generation ≠ host.settings.closeTimeout)
    (apart' : told.transport.closeDelay ≠ host.settings.closeTimeout) :
    Overdue host (.shutdown :: moves) running.bot number ↔
      host.settings.closeTimeout < told.busyFor running.generation ∨
        host.settings.closeTimeout < told.transport.closeDelay := by
  have settings : told.settings = host.settings := by rw [onset.settings, stopAll_eq]
  obtain ⟨task, found, ended⟩ := returned _ member
  obtain ⟨result, finished⟩ := exists_result ended
  obtain ⟨lock, state, found'⟩ := onset.task? (task?_stopAll member)
  obtain rfl : state = .answered .locked :=
    locked_of_unseats (reachable.stopAll.run onset) found' rfl made unseats
  have rest : Run next after last := by
    subst split
    cases onset.rest_of_append run with
    | move made' rest =>
      obtain rfl := Option.some.inj (made.symm.trans made')
      exact rest
  have result := Run.result_of_paced (reachable.stopAll.run onset) found' unseats.1 made rest paced
    (by rwa [settings]) (by rwa [settings]) found finished
  rw [settings] at result
  rcases fault?_of_shutdown reachable calm run quiet serves returned member registered with
    ⟨overdue, fault⟩ | ⟨inTime, fault⟩
  · refine iff_of_true overdue ?_
    by_contra within
    rw [if_pos (by omega)] at result
    simp [fault?, found, finished, result] at fault
  · refine iff_of_false inTime fun late => ?_
    rw [if_neg (by omega)] at result
    simp [fault?, found, finished, result] at fault

end

/-- A bot that does not run and is not just being reaped. -/
theorem Rests.begins (gone : host.running? bot = none) (still : host.store.find? bot = some stored)
    (outside : ∀ task ∈ host.tasks, task.bot = bot → task.state.inside = false) :
    host.stopAll.Rests bot stored where
  gone := by rwa [stopAll_eq]
  still := by rwa [stopAll_eq]
  unowed := by
    intro number task found ofBot
    rcases task?_of_stopAll found with before | ⟨_, created⟩
    · by_contra owes
      rw [Bool.not_eq_false] at owes
      have inside := outside task (host.mem_tasks.mpr ⟨number, before⟩) ofBot
      exact absurd (inside_of_owes owes) (by rw [inside]; nofun)
    · rw [created]
      rfl

/-- The faults of the stops stand in the order of their bots. -/
theorem shutdownFaults_ascending (distinct : host.Distinct) {late : String → TaskNumber → Prop}
    {fault : String → ManagerFault} (each : ∀ {bot : String} {number : TaskNumber},
      (bot, number) ∈ host.shutdownStops →
        late bot number ∧ last.fault? number = some (fault bot) ∨
          ¬late bot number ∧ last.fault? number = none) :
    ∃ bots : List String, bots.Pairwise (· < ·) ∧
      (∀ bot, bot ∈ bots ↔ ∃ number, (bot, number) ∈ host.shutdownStops ∧ late bot number) ∧
      host.shutdownFaults last = bots.map fault := by
  refine ⟨(host.shutdownStops.filter fun stop => (last.fault? stop.2).isSome).map Prod.fst, ?_, ?_, ?_⟩
  · have ascending := runningIds_ascending distinct
    rw [← List.zipIdx_map_fst host.tasks.length host.runningIds] at ascending
    exact ascending.sublist (List.filter_sublist.map Prod.fst)
  · intro bot
    simp only [List.mem_map, List.mem_filter, Prod.exists, exists_and_right, exists_eq_right]
    refine exists_congr fun number => and_congr_right fun member => ?_
    rcases each member with ⟨overdue, fault⟩ | ⟨inTime, none⟩
    · exact iff_of_true (by rw [fault]; rfl) overdue
    · exact iff_of_false (by rw [none]; nofun) inTime
  · rw [List.map_map, ← List.filterMap_eq_map, List.filterMap_filter]
    refine List.filterMap_congr fun stop member => ?_
    rcases each member with ⟨_, fault⟩ | ⟨_, none⟩
    · simp [fault]
    · simp [none]

/-- From a host in which no call is under way, and while the store works, a shutdown that has returned
without another call has ended every instance that ran: for each bot the loop has finished and its status is
`stopped`, or `error` if its session had ended and the task that was to reap it came first. No stop writes
to another bot, and whatever did not run keeps its record. What the shutdown returns are the stops that were
overdue, in the ascending order of their bots. -/
theorem Run.shuts_down (reachable : host.Reachable) (calm : host.Calm)
    (run : Run host (.shutdown :: moves) last) (quiet : ∀ move ∈ moves, move.isCall = false)
    (serves : Throughout Serves host (.shutdown :: moves)) (returned : host.HasShutDown last) :
    ShutDown host (.shutdown :: moves) last := by
  have served : Throughout Serves host.stopAll moves := (throughout_cons.mp serves).2 _ rfl
  cases run with
  | move made run =>
  cases made
  have stops {bot : String} {number : TaskNumber} (member : (bot, number) ∈ host.shutdownStops) :
      Overdue host (.shutdown :: moves) bot number ∧
          last.fault? number = some (.closeTimeout bot host.settings.closeTimeout) ∨
        ¬Overdue host (.shutdown :: moves) bot number ∧ last.fault? number = none := by
    obtain ⟨running, registered⟩ := registered_of_stop member
    obtain rfl := host.running?_bot registered
    exact fault?_of_shutdown reachable calm run quiet served returned member registered
  constructor
  case dismissed =>
    intro bot running registered
    obtain ⟨number, member⟩ := exists_shutdownStop registered
    obtain rfl := host.running?_bot registered
    obtain ⟨stored, still, dismissed⟩ :=
      dismissed_of_shutdown reachable calm run quiet served returned member registered
    exact ⟨number, stored, member, still, dismissed⟩
  case apart =>
    intro bot number member step steps other different
    obtain ⟨before, onset, made⟩ := @Run.mem_stepsOf host.stopAll _ _ _ step run steps
    obtain ⟨lock, state, found⟩ := onset.task? (task?_stopAll member)
    exact find?_of_advance found made different
  case spared =>
    intro other stored gone still outside
    exact (run.keeps_record reachable.stopAll quiet served (calm.onlyEnds other)
      (.begins gone still outside)).still
  case faults => exact shutdownFaults_ascending reachable.distinct stops
  case timed =>
    intro bot number running before after told next member registered split onset made unseats paced
    obtain rfl := host.running?_bot registered
    cases onset with
    | rest => cases split
    | move made' onset =>
      obtain ⟨rfl, rest⟩ := List.cons.inj split
      cases made'
      exact overdue_iff_of_paced reachable calm run quiet served returned member registered rest onset
        made unseats paced

/-- Two bots of three are started, and then the session of one ends. -/
def startTwoOfThree : List Move :=
  [[.begin .start "b"], .replicate 9 (.step (.task 0)), [.begin .start "a"], .replicate 9 (.step (.task 1)),
    [.endSession "ta", .step (.loop 2)]].flatten

/-- When the shutdown has begun, the task that is to reap comes first. The session of the other bot does not
close in time. -/
def stopBothLate : List Move :=
  [.replicate 9 (.step (.task 2)), [.setDelays 0 60000 0], .replicate 3 (.step (.task 4)),
    [.step (.loop 1), .step (.task 4), .step (.task 4), .pass 5000], .replicate 4 (.step (.task 4)),
    .replicate 5 (.step (.task 3))].flatten

theorem shuts_down_stopBothLate : ∃ first last,
    Run (seeded .unlimited {} [.plain "a" "ta", .plain "b" "tb", .plain "c" "tc"]) startTwoOfThree first ∧
      first.Calm ∧ Run first (.shutdown :: stopBothLate) last ∧
      Throughout Serves first (.shutdown :: stopBothLate) ∧ first.HasShutDown last ∧
      ShutDown first (.shutdown :: stopBothLate) last ∧
      first.shutdownFaults last = [.closeTimeout "b" 5000] ∧
      ["a", "b", "c"].map (fun bot => (last.store.find? bot).map Bot.status) =
        [some .error, some .stopped, some .stopped] := by
  have played : ((seeded .unlimited {} [.plain "a" "ta", .plain "b" "tb", .plain "c" "tc"]).play
      startTwoOfThree).bind (fun first =>
        let stopping := ["a", "b"].foldl (fun host bot => (addTask host .stop bot).2) first
        (stopping.play stopBothLate).map fun last =>
          ((first.registry.map Instance.bot, first.tasks.length, first.calls.all (·.state.ended),
            decide first.Serves, decide (Throughout Serves stopping stopBothLate)),
            (last.task? 3).any (·.state.ended), (last.task? 4).any (·.state.ended),
            last.fault? 3, last.fault? 4,
            ["a", "b", "c"].map fun bot => (last.store.find? bot).map Bot.status)) =
      some ((["a", "b"], 3, true, true, true), true, true, none, some (.closeTimeout "b" 5000),
        [some .error, some .stopped, some .stopped]) := by rfl
  simp only [Option.bind_eq_some_iff, Option.map_eq_some_iff, Option.any_eq_true, Prod.mk.injEq,
    decide_eq_true_eq] at played
  obtain ⟨first, begins, last, goes, ⟨registered, before, calm, serves, throughout⟩, ended, ended', none,
    fault, statuses⟩ := played
  have ids : first.runningIds = ["a", "b"] := by
    rw [runningIds, registered]
    exact List.mergeSort_of_pairwise (by decide)
  have stops : first.shutdownStops = [("a", 3), ("b", 4)] := by
    rw [shutdownStops, ids, before]
    rfl
  rw [← ids] at goes throughout
  have run : Run first (.shutdown :: stopBothLate) last := .move rfl (run_iff.mpr goes)
  have calm : first.Calm := fun task member => List.all_eq_true.mp calm task member
  have serves : Throughout Serves first (.shutdown :: stopBothLate) :=
    throughout_cons.mpr ⟨serves, fun _ made => Option.some.inj made ▸ throughout⟩
  have returned : first.HasShutDown last := by simpa [HasShutDown, stops] using ⟨ended, ended'⟩
  have shutsDown := Run.shuts_down ⟨_, _, _, _, run_iff.mpr begins⟩ calm run (by decide) serves returned
  exact ⟨first, last, run_iff.mpr begins, calm, run, serves, returned, shutsDown,
    by simp [shutdownFaults, stops, none, fault], statuses⟩

end Host

/-! ### How a schedule begins a shutdown -/

/-- A schedule that has begun to stop every running bot, and has let each stop go as far as it could, has
begun a shutdown, and the tasks that it waits for are the stops of this shutdown. -/
theorem Schedule.run_beginShutdown (schedule : Schedule) : ∃ moves,
    (∀ move ∈ moves, move.isCall = false) ∧
      Host.Run schedule.host (.shutdown :: moves) schedule.beginShutdown.2.host ∧
      schedule.host.runningIds.zip schedule.beginShutdown.1 = schedule.host.shutdownStops := by
  obtain ⟨moves, steps, run, counted⟩ :=
    run_beginTasks .stop schedule.host.runningIds [] schedule
  have begun : beginTasks .stop schedule.host.runningIds ([], schedule) = schedule.beginShutdown := rfl
  rw [begun] at run counted
  refine ⟨moves, fun move member => ?_, .move rfl ?_, ?_⟩
  · obtain ⟨number, rfl⟩ := steps move member
    rfl
  · rwa [Host.stopAll_eq]
  · rw [counted, List.nil_append, Host.shutdownStops, List.zipIdx_eq_zip_range']

end BotHost
