/-
Loops and their sessions.

A session is opened for one task, which launches one loop with it. So no two loops have one session,
and what a loop sends through its session nobody else sends.
-/

import BotHost.Proofs.Manager.Custody
import BotHost.Proofs.Session.Memory

namespace BotHost

/-- The session that a task has opened and has launched no loop with yet. -/
def TaskState.fresh? : TaskState → Option Nat
  | .answered (.connected _ (.ok session)) => some session
  | _ => none

namespace Host

/-- Each loop has a session of its own. -/
structure Paired (host : Host) : Prop where
  opened : ∀ {generation : Nat} {loop : SessionLoop}, host.loop? generation = some loop →
    loop.session < host.transport.openedCount
  single : ∀ {generation other : Nat} {loop loop' : SessionLoop},
    host.loop? generation = some loop → host.loop? other = some loop' →
      loop.session = loop'.session → generation = other
  fresh : ∀ {number : TaskNumber} {task : Task} {session : Nat}, host.task? number = some task →
    task.state.fresh? = some session → session < host.transport.openedCount ∧
      ∀ {generation : Nat} {loop : SessionLoop}, host.loop? generation = some loop →
        loop.session ≠ session
  apart : ∀ {number other : TaskNumber} {task record : Task} {session : Nat},
    host.task? number = some task → host.task? other = some record →
      task.state.fresh? = some session → record.state.fresh? = some session → number = other

variable {host next : Host} {number : TaskNumber} {task : Task}

/-! ### Steps and sessions -/

/-- The sessions of the transport change with an answer only if one is opened or closed. -/
theorem answer?_transport {wait : Wait} {answer : Answer} {answered : Host}
    (taken : host.answer? number task wait = some (answer, answered)) :
    ((TaskState.answered answer).fresh? = none ∧ answered.transport = host.transport) ∨
      (∃ handlers token due deadline session, wait = .connect handlers token due deadline ∧
        answer = .connected handlers (.ok session) ∧
        host.transport.openSession token = (.ok session, answered.transport)) ∨
      ∃ running ending forced due deadline, wait = .close running ending forced due deadline ∧
        answer = .closed running ending forced ∧
        answered.transport = host.transport.closeSession running.session := by
  cases answers_of_answer? taken with
  | recordedStopped | recordedReaped | recordedFailed | recordedRunning =>
    rw [storeSetStatus_eq]
    exact .inl ⟨rfl, rfl⟩
  | removed =>
    rw [storeRemove_eq]
    exact .inl ⟨rfl, rfl⟩
  | updated =>
    rw [storeUpdate_eq]
    exact .inl ⟨rfl, rfl⟩
  | closed => exact .inr (.inr ⟨_, _, _, _, _, rfl, rfl, rfl⟩)
  | opened _ _ _ opens => exact .inr (.inl ⟨_, _, _, _, _, rfl, rfl, opens⟩)
  | _ => exact .inl ⟨rfl, rfl⟩

namespace Paired

/-- Sessions may be added, and tasks may go on; loops must keep theirs. -/
theorem congr (paired : host.Paired)
    (sessions : host.transport.openedCount ≤ next.transport.openedCount)
    (loops : ∀ {generation : Nat} {loop : SessionLoop}, next.loop? generation = some loop →
      ∃ before, host.loop? generation = some before ∧ before.session = loop.session)
    (tasks : ∀ {number : TaskNumber} {task : Task} {session : Nat},
      next.task? number = some task → task.state.fresh? = some session →
        ∃ before, host.task? number = some before ∧ before.state.fresh? = some session) :
    next.Paired where
  opened := by
    intro generation loop there
    obtain ⟨before, found, same⟩ := loops there
    rw [← same]
    exact Nat.lt_of_lt_of_le (paired.opened found) sessions
  single := by
    intro generation other loop loop' there there' shared
    obtain ⟨before, found, same⟩ := loops there
    obtain ⟨before', found', same'⟩ := loops there'
    exact paired.single found found' (by rw [same, same', shared])
  fresh := by
    intro number task session there fresh
    obtain ⟨before, found, fresh'⟩ := tasks there fresh
    obtain ⟨bound, unused⟩ := paired.fresh found fresh'
    refine ⟨Nat.lt_of_lt_of_le bound sessions, fun there => ?_⟩
    obtain ⟨before, found, same⟩ := loops there
    rw [← same]
    exact unused found
  apart := by
    intro number other task record session there there' fresh fresh'
    obtain ⟨before, found, had⟩ := tasks there fresh
    obtain ⟨before', found', had'⟩ := tasks there' fresh'
    exact paired.apart found found' had had'

/-- A task that goes on without a session to launch a loop with. -/
theorem changeTask (paired : host.Paired) (number : TaskNumber) (change : Task → Task)
    (spent : ∀ task, (change task).state.fresh? = none) :
    (host.changeTask number change).Paired := by
  refine paired.congr (Nat.le_refl _) (fun there => ⟨_, there, rfl⟩) ?_
  intro other task session there fresh
  rw [task?_changeTask] at there
  split at there
  · obtain ⟨before, _, rfl⟩ := Option.map_eq_some_iff.mp there
    rw [spent] at fresh
    cases fresh
  · exact ⟨task, there, fresh⟩

theorem addTask (paired : host.Paired) (operation : Operation) (bot : String) :
    (host.addTask operation bot).2.Paired := by
  refine paired.congr (Nat.le_refl _) (fun there => ⟨_, there, rfl⟩) ?_
  intro other task session there fresh
  obtain ⟨rfl, rfl⟩ | there := task?_addTask_cases there
  · cases fresh
  · exact ⟨task, there, fresh⟩

/-- Loops that are the same but for marks have the same sessions. -/
theorem withInstances (paired : host.Paired) (registry : List Instance) {loops : List SessionLoop}
    (marked : loops.map SessionLoop.unmarked = host.loops.map SessionLoop.unmarked) :
    (host.withInstances registry loops).Paired := by
  refine paired.congr (Nat.le_refl _) ?_ fun there fresh => ⟨_, there, fresh⟩
  intro generation loop there
  change (host.withInstances registry loops).loop? generation = some loop at there
  obtain ⟨before, found, same⟩ := loop?_unmarked marked there
  exact ⟨before, found, congrArg (·.session) same⟩

theorem finish (paired : host.Paired) (number : TaskNumber) (task : Task)
    (result : Except ManagerFault Success) : (host.finish number task result).Paired := by
  have ended := paired.changeTask number
    (fun task => { task with lock := none, state := .finished result }) fun _ => rfl
  rw [finish_eq]
  exact ended.congr (Nat.le_refl _) (fun there => ⟨_, there, rfl⟩) fun there fresh =>
    ⟨_, there, fresh⟩

theorem finishDeleted (paired : host.Paired) (number : TaskNumber) (task : Task) :
    (host.finishDeleted number task).Paired := by
  have ended := paired.changeTask number
    (fun task => { task with lock := none, state := .finished (.ok .done) }) fun _ => rfl
  rw [finishDeleted_eq]
  exact ended.congr (Nat.le_refl _) (fun there => ⟨_, there, rfl⟩) fun there fresh =>
    ⟨_, there, fresh⟩

/-- The session that a task has opened becomes that of the loop it launches. -/
theorem launch (paired : host.Paired) (found : host.task? number = some task)
    {session : Nat} (fresh : task.state.fresh? = some session) (handlers : List Handler) :
    (host.launch number task handlers session).Paired := by
  obtain ⟨bound, unused⟩ := paired.fresh found fresh
  have length : (host.launch number task handlers session).transport.openedCount =
      host.transport.openedCount :=
    MemoryTransport.length_change ..
  have loops (generation : Nat) : (host.launch number task handlers session).loop? generation =
      if generation = host.nextGeneration then
        some ⟨task.bot, session, handlers, [], false, false, .idle⟩
      else host.loop? generation :=
    host.loop?_append _ generation
  have others {other : TaskNumber} {record : Task} {session' : Nat}
      (there : (host.launch number task handlers session).task? other = some record)
      (fresh' : record.state.fresh? = some session') :
      other ≠ number ∧ host.task? other = some record := by
    change (Host.waitFor _ number _).task? other = _ at there
    rw [task?_waitFor] at there
    split at there
    · obtain ⟨before, _, rfl⟩ := Option.map_eq_some_iff.mp there
      cases fresh'
    next different => exact ⟨different, there⟩
  constructor
  · intro generation loop there
    rw [length]
    rw [loops] at there
    split at there
    · obtain rfl := Option.some.inj there
      exact bound
    · exact paired.opened there
  · intro generation other loop loop' there there' shared
    rw [loops] at there there'
    split at there <;> split at there'
    next same same' => exact same.trans same'.symm
    · obtain rfl := Option.some.inj there
      exact absurd shared.symm (unused there')
    · obtain rfl := Option.some.inj there'
      exact absurd shared (unused there)
    · exact paired.single there there' shared
  · intro other record session' there fresh'
    obtain ⟨different, before⟩ := others there fresh'
    obtain ⟨bound', unused'⟩ := paired.fresh before fresh'
    refine ⟨by rw [length]; exact bound', fun there' => ?_⟩
    rw [loops] at there'
    split at there'
    · obtain rfl := Option.some.inj there'
      rintro rfl
      exact different (paired.apart before found fresh' fresh)
    · exact unused' there'
  · intro first second record record' session' there there' fresh' fresh''
    exact paired.apart (others there fresh').2 (others there' fresh'').2 fresh' fresh''

/-- An opened session is nobody's but the task's. -/
theorem opens (paired : host.Paired) {token : String} {session : Nat}
    {transport : MemoryTransport Nat}
    (opened : host.transport.openSession token = (.ok session, transport)) (number : TaskNumber)
    (handlers : List Handler) (store : BotStore) :
    ({ host with store, transport }.setTaskState number
      (.answered (.connected handlers (.ok session)))).Paired := by
  obtain ⟨rfl, sessions, _⟩ := MemoryTransport.openSession_ok opened
  have length : transport.openedCount = host.transport.openedCount + 1 := by
    rw [MemoryTransport.openedCount, sessions, List.length_append]
    rfl
  have tasks (other : TaskNumber) :=
    { host with store, transport }.task?_setTaskState number
      (.answered (.connected handlers (.ok host.transport.sessions.length))) other
  have known {other : TaskNumber} {task : Task} {session : Nat}
      (there : ({ host with store, transport }.setTaskState number (.answered (.connected handlers
        (.ok host.transport.sessions.length)))).task? other = some task)
      (fresh : task.state.fresh? = some session) :
      (other = number ∧ session = host.transport.openedCount) ∨
        host.task? other = some task := by
    rw [tasks] at there
    split at there
    next same =>
      obtain ⟨before, _, rfl⟩ := Option.map_eq_some_iff.mp there
      exact .inl ⟨same, (Option.some.inj fresh).symm⟩
    next => exact .inr there
  constructor
  · intro generation loop there
    show loop.session < transport.openedCount
    have bound := paired.opened there
    omega
  · exact paired.single
  · intro other task session there fresh
    show session < transport.openedCount ∧ _
    rcases known there fresh with ⟨_, rfl⟩ | before
    · exact ⟨by omega, fun there => Nat.ne_of_lt (paired.opened there)⟩
    · obtain ⟨bound, unused⟩ := paired.fresh before fresh
      exact ⟨by omega, unused⟩
  · intro first second task record session there there' fresh fresh'
    rcases known there fresh with ⟨rfl, last⟩ | before <;>
      rcases known there' fresh' with ⟨rfl, last'⟩ | before'
    · rfl
    · exact absurd last (Nat.ne_of_lt (paired.fresh before' fresh').1)
    · exact absurd last' (Nat.ne_of_lt (paired.fresh before fresh).1)
    · exact paired.apart before before' fresh fresh'

theorem of_goesOn (paired : host.Paired) (found : host.task? number = some task) {answer : Answer}
    (answered : task.state = .answered answer) (goes : GoesOn host number task answer next) :
    next.Paired := by
  cases goes with
  | waits _ registry loops wait other idle marked =>
    exact (paired.withInstances registry marked).changeTask number _ fun _ => rfl
  | launches handlers session => exact paired.launch found (by rw [answered]; rfl) handlers
  | ends _ registry result =>
    exact (paired.withInstances registry rfl).finish number task result
  | deletes => exact paired.finishDeleted number task

theorem answer (paired : host.Paired) {wait : Wait}
    {answer : Answer} {answered : Host}
    (taken : host.answer? number task wait = some (answer, answered)) :
    (answered.setTaskState number (.answered answer)).Paired := by
  have effect := answer?_transport taken
  obtain ⟨store, transport, rfl⟩ := answer?_eq taken
  have kept (sessions : host.transport.openedCount ≤ transport.openedCount)
      (spent : (TaskState.answered answer).fresh? = none) :
      ({ host with store, transport }.setTaskState number (.answered answer)).Paired := by
    have same : { host with store, transport }.Paired :=
      paired.congr sessions (fun there => ⟨_, there, rfl⟩) fun there fresh => ⟨_, there, fresh⟩
    exact same.changeTask number _ fun _ => spent
  rcases effect with ⟨spent, same⟩ |
    ⟨handlers, token, due, deadline, session, rfl, rfl, opened⟩ |
    ⟨running, ending, forced, due, deadline, rfl, rfl, same⟩
  · obtain rfl : transport = host.transport := same
    exact kept (Nat.le_refl _) spent
  · exact paired.opens opened number handlers store
  · obtain rfl : transport = host.transport.closeSession running.session := same
    exact kept (Nat.le_of_eq (host.transport.length_closeSession _).symm) rfl

theorem moveLoop (paired : host.Paired) {generation : Nat} {loop : SessionLoop}
    (found : host.loop? generation = some loop) (waiting : List Event) (state : LoopState)
    (recorded : List (String × Call)) (sendsStarted : Nat) :
    (host.moveLoop generation waiting state recorded sendsStarted).Paired := by
  refine paired.congr (Nat.le_refl _) ?_ fun there fresh => ⟨_, there, fresh⟩
  intro other loop' there
  rw [loop?_moveLoop found] at there
  split at there
  next same =>
    subst same
    obtain rfl := Option.some.inj there
    exact ⟨loop, found, rfl⟩
  next => exact ⟨loop', there, rfl⟩

theorem step (paired : host.Paired) {process : Process}
    (stepped : host.advance process = some next) : next.Paired := by
  cases process with
  | loop generation =>
    obtain ⟨loop, found, _, waiting, state, recorded, sendsStarted, ⟨rfl, _⟩ | ⟨rfl, _⟩⟩ :=
      advance_loop_cases stepped
    · exact paired.moveLoop found _ _ _ _
    · exact (paired.moveLoop found _ _ _ _).addTask _ _
  | task number =>
    obtain ⟨task, found, ⟨created, rfl⟩ | ⟨wait, answer, answered, waiting, taken, rfl⟩ |
      ⟨answer, answered, rfl⟩⟩ := advance_task_cases stepped
    · obtain ⟨locks, lock, asks⟩ := host.requestLock_eq number task
      rw [asks]
      have asked : { host with locks }.Paired :=
        paired.congr (Nat.le_refl _) (fun there => ⟨_, there, rfl⟩) fun there fresh =>
          ⟨_, there, fresh⟩
      exact asked.changeTask number _ fun _ => rfl
    · exact paired.answer taken
    · exact paired.of_goesOn found answered (goesOn_resume host number task answer)

theorem move (paired : host.Paired) {move : Move} (made : host.after? move = some next) :
    next.Paired := by
  refine after?_kept (fun operation bot _ paired => paired.addTask operation bot)
    (fun waiting paired found _ => paired.moveLoop found waiting _ _ _) ?_
    (fun paired stepped => paired.step stepped) paired made
  intro host store transport faults now paired same
  exact paired.congr (Nat.le_of_eq same.symm) (fun there => ⟨_, there, rfl⟩) fun there fresh =>
    ⟨_, there, fresh⟩

theorem seeded (patterns : PatternEngine) (settings : ManagerSettings) (bots : List Bot) :
    (Host.seeded patterns settings bots).Paired where
  opened there := absurd there (by simp [loop?, Host.seeded])
  single there := absurd there (by simp [loop?, Host.seeded])
  fresh := nofun
  apart := nofun

end Paired

theorem Reachable.paired (reachable : host.Reachable) : host.Paired :=
  reachable.invariant Paired.seeded fun _ paired made => paired.move made

end Host

end BotHost
