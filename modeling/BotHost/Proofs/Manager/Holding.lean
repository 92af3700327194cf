/-
Who has the open sessions.

A session that has been opened is closed unless somebody has it: a registered instance, or a task that
has opened it or has yet to close it. And what somebody has is not closed, since no other instance has
it. The exception are sessions that do not close in time: a task gives them up, and from then on nobody
has them and nobody closes them.
-/

import BotHost.Proofs.Manager.Pairing
import BotHost.Proofs.Manager.Registry

namespace BotHost

/-- A session that a task has in hand is one that it has launched no loop with yet, or that of the
instance in its hand. -/
theorem TaskState.holds?_cases {state : TaskState} {session : Nat}
    (holds : state.holds? = some session) :
    state.fresh? = some session ∨ ∃ stage running, state.charge? = some (stage, running) ∧
      running.session = session := by
  cases state with
  | created | finished => cases holds
  | waiting wait =>
    cases wait with
    | join | joinAborted | close | recordRunning =>
      exact .inr ⟨_, _, rfl, Option.some.inj holds⟩
    | _ => cases holds
  | answered answer =>
    cases answer with
    | joined running ending finished =>
      cases finished <;> exact .inr ⟨_, running, rfl, Option.some.inj holds⟩
    | joinedAborted | recordedRunning => exact .inr ⟨_, _, rfl, Option.some.inj holds⟩
    | connected handlers result =>
      cases result with
      | error => cases holds
      | ok => exact .inl holds
    | _ => cases holds

/-- Whether a task, if it waits for a session to close, waits long enough. -/
def TaskState.patient : TaskState → Bool
  | .waiting (.close _ _ _ due deadline) => due ≤ deadline
  | _ => true

namespace Host

/-- The session that a task has in hand. -/
def holds? (host : Host) (number : TaskNumber) : Option Nat :=
  (host.task? number).bind fun task => task.state.holds?

/-- Somebody has a session. -/
def Held (host : Host) (session : Nat) : Prop :=
  (∃ bot running, host.running? bot = some running ∧ running.session = session) ∨
    ∃ number, host.holds? number = some session

/-- The session that a task no longer waits to have closed. -/
def givenUp? (host : Host) : Move → Option Nat
  | .step (.task number) =>
    (host.task? number).bind fun task =>
      match task.state with
      | .waiting (.close running _ _ due deadline) =>
        if host.now < due ∧ deadline ≤ host.now then some running.session else none
      | _ => none
  | _ => none

/-- Sessions are open as long as somebody has them, or for good if they have been left behind. -/
structure Accounted (host : Host) (left : List Nat) : Prop where
  open_iff : ∀ {number : Nat} {session : MemorySession Nat},
    host.transport.session? number = some session →
      (session.closed = false ↔ host.Held number ∨ number ∈ left)
  lost : ∀ session ∈ left, session < host.transport.openedCount ∧ ¬host.Held session

/-- Sessions are open as long as somebody has them. -/
structure Housed (host : Host) : Prop where
  open_iff : ∀ {number : Nat} {session : MemorySession Nat},
    host.transport.session? number = some session → (session.closed = false ↔ host.Held number)

/-- Who waits for a session to close does not give up before. -/
def Patient (host : Host) : Prop := ∀ task ∈ host.tasks, task.state.patient = true

instance (host : Host) : Decidable host.Patient :=
  inferInstanceAs (Decidable (∀ task ∈ host.tasks, task.state.patient = true))

variable {host next : Host} {number : TaskNumber} {task : Task} {left : List Nat}

theorem holds?_eq (found : host.task? number = some task) :
    host.holds? number = task.state.holds? := by
  rw [holds?, found, Option.bind_some]

theorem holds?_changeTask (found : host.task? number = some task) (change : Task → Task)
    (other : TaskNumber) : (host.changeTask number change).holds? other =
      if other = number then (change task).state.holds? else host.holds? other := by
  rw [holds?, task?_changeTask]
  split
  next same =>
    subst same
    rw [found, Option.map_some, Option.bind_some]
  next => rfl

theorem givenUp?_of_late (found : host.task? number = some task) {running : Instance}
    {ending : Ending} {forced : Bool} {due deadline : Nat}
    (waiting : task.state = .waiting (.close running ending forced due deadline))
    (late : host.now < due) (passed : deadline ≤ host.now) :
    host.givenUp? (.step (.task number)) = some running.session := by
  rw [givenUp?, found, Option.bind_some, waiting]
  exact if_pos ⟨late, passed⟩

/-- Nothing is given up by a task that does not wait for a session to close, or waits until it has. -/
theorem givenUp?_eq_none (found : host.task? number = some task)
    (inTime : ∀ running ending forced due deadline,
      task.state = .waiting (.close running ending forced due deadline) →
        ¬(host.now < due ∧ deadline ≤ host.now)) :
    host.givenUp? (.step (.task number)) = none := by
  rw [givenUp?, found, Option.bind_some]
  split
  next running ending forced due deadline waiting => exact if_neg (inTime _ _ _ _ _ waiting)
  next => rfl

/-- Who waits long enough gives nothing up. -/
theorem Patient.givenUp? (patient : host.Patient) (move : Move) : host.givenUp? move = none := by
  unfold Host.givenUp?
  split
  next number =>
    cases found : host.task? number with
    | none => rfl
    | some task =>
      rw [Option.bind_some]
      split
      next running ending forced due deadline waiting =>
        have enough := patient task (List.mem_of_getElem? found)
        rw [waiting] at enough
        have order : due ≤ deadline := of_decide_eq_true enough
        exact if_neg fun late => by omega
      next => rfl
  next => rfl

/-- Only with an answer about a session does a task get one in hand, or have one no longer. -/
theorem answer?_holds {wait : Wait} {answer : Answer} {answered : Host}
    (taken : host.answer? number task wait = some (answer, answered)) :
    (∃ running ending forced due deadline, wait = .close running ending forced due deadline) ∨
      (∃ handlers session, answer = .connected handlers (.ok session)) ∨
        (∀ running ending forced due deadline, wait ≠ .close running ending forced due deadline) ∧
          (TaskState.answered answer).holds? = (TaskState.waiting wait).holds? := by
  cases answers_of_answer? taken with
  | closed | unclosed => exact .inl ⟨_, _, _, _, _, rfl⟩
  | opened => exact .inr (.inl ⟨_, _, rfl⟩)
  | _ => exact .inr (.inr ⟨by rintro _ _ _ _ _ ⟨⟩, rfl⟩)

/-- Nobody else has the session of an instance that a task has in hand. -/
theorem sole_holder (orderly : host.Orderly) (custody : host.Custody) (paired : host.Paired)
    (found : host.task? number = some task) {stage : Stage} {running : Instance}
    (charge : task.state.charge? = some (stage, running)) :
    (∀ {bot : String} {other : Instance}, host.running? bot = some other →
      other.session ≠ running.session) ∧
      ∀ {other : TaskNumber}, host.holds? other = some running.session → other = number := by
  obtain ⟨ofBot, loop, there, ofLoop, session, _⟩ := custody.charged found charge
  have vacant := Task.vacant_of_charge charge
  have sameBot {stage : Stage} {other : Instance} (bears : host.Bears stage other)
      (shared : other.session = running.session) : other.bot = task.bot := by
    obtain ⟨loop', there', ofLoop', session', _⟩ := bears
    have same := paired.single there there' (session.trans (shared.symm.trans session'.symm))
    rw [← same, there] at there'
    obtain rfl := Option.some.inj there'
    rw [← ofLoop', ofLoop, ofBot]
  constructor
  · intro bot other registered shared
    have same := sameBot (custody.registered registered) shared
    rw [host.running?_bot registered] at same
    rw [same, custody.vacant found vacant] at registered
    cases registered
  · intro other holds
    obtain ⟨record, found', holds⟩ := Option.bind_eq_some_iff.mp holds
    rcases TaskState.holds?_cases holds with fresh | ⟨stage', other', charge', shared⟩
    · exact absurd session ((paired.fresh found' fresh).2 there)
    · obtain ⟨ofBot', bears⟩ := custody.charged found' charge'
      exact orderly.alone found found' (Task.inside_of_vacant vacant)
        (Task.inside_of_vacant (Task.vacant_of_charge charge'))
        (ofBot'.symm.trans (sameBot bears shared))

/-- When a task lets go of the session of the instance in its hand, nobody has it any more. -/
theorem held_of_letGo (orderly : host.Orderly) (custody : host.Custody) (paired : host.Paired)
    (found : host.task? number = some task) {stage : Stage} {running : Instance}
    (charge : task.state.charge? = some (stage, running))
    (has : host.holds? number = some running.session)
    (registered : ∀ bot, next.running? bot = host.running? bot)
    (letGo : ∀ other, next.holds? other = if other = number then none else host.holds? other)
    (session : Nat) : next.Held session ↔ session ≠ running.session ∧ host.Held session := by
  obtain ⟨unregistered, alone⟩ := sole_holder orderly custody paired found charge
  constructor
  · rintro (⟨bot, other, there, rfl⟩ | ⟨other, holds⟩)
    · rw [registered] at there
      exact ⟨unregistered there, .inl ⟨bot, other, there, rfl⟩⟩
    · rw [letGo] at holds
      split at holds
      · cases holds
      next different =>
        refine ⟨?_, .inr ⟨other, holds⟩⟩
        rintro rfl
        exact different (alone holds)
  · rintro ⟨different, ⟨bot, other, there, same⟩ | ⟨other, holds⟩⟩
    · exact .inl ⟨bot, other, (registered bot).trans there, same⟩
    · refine .inr ⟨other, ?_⟩
      rw [letGo, if_neg, holds]
      rintro rfl
      exact different (Option.some.inj (holds.symm.trans has))

namespace Accounted

/-- What matters is who has what, and which sessions are closed. -/
theorem congr (accounted : host.Accounted left)
    (held : ∀ session, next.Held session ↔ host.Held session)
    (sessions : ∀ {number : Nat} {session : MemorySession Nat},
      next.transport.session? number = some session →
        ∃ before, host.transport.session? number = some before ∧ before.closed = session.closed)
    (count : next.transport.openedCount = host.transport.openedCount) :
    next.Accounted left where
  open_iff := by
    intro number session there
    obtain ⟨before, found, same⟩ := sessions there
    rw [held, ← same]
    exact accounted.open_iff found
  lost := by
    intro session behind
    rw [held, count]
    exact accounted.lost session behind

theorem held_iff (running : ∀ bot, next.running? bot = host.running? bot)
    (holds : ∀ number, next.holds? number = host.holds? number) (session : Nat) :
    next.Held session ↔ host.Held session := by
  simp only [Held, running, holds]

/-- A session that passes from the registry into the hands of a task is had before and after. -/
theorem held_iff_of_handOver {bot : String} {running : Instance}
    (registered : host.running? bot = some running)
    (left : ∀ other, next.running? other = if other = bot then none else host.running? other)
    (had : host.holds? number = none) (has : next.holds? number = some running.session)
    (same : ∀ {other : TaskNumber}, other ≠ number → next.holds? other = host.holds? other)
    (session : Nat) : next.Held session ↔ host.Held session := by
  constructor
  · rintro (⟨other, record, there, rfl⟩ | ⟨other, there⟩)
    · rw [left] at there
      split at there
      · cases there
      · exact .inl ⟨other, record, there, rfl⟩
    · by_cases own : other = number
      · subst own
        exact .inl ⟨bot, running, registered, Option.some.inj (has.symm.trans there)⟩
      · exact .inr ⟨other, (same own).symm.trans there⟩
  · rintro (⟨other, record, there, rfl⟩ | ⟨other, there⟩)
    · by_cases own : other = bot
      · subst own
        obtain rfl := Option.some.inj (registered.symm.trans there)
        exact .inr ⟨number, has⟩
      · exact .inl ⟨other, record, by rw [left, if_neg own, there], rfl⟩
    · refine .inr ⟨other, (same ?_).trans there⟩
      rintro rfl
      cases had.symm.trans there

/-- A change of a session that neither closes nor reopens it. -/
theorem session?_of_change {transport : MemoryTransport Nat} {changed : Nat}
    {change : MemorySession Nat → MemorySession Nat}
    (same : ∀ session, (change session).closed = session.closed) {number : Nat}
    {session : MemorySession Nat}
    (there : (transport.change changed change).session? number = some session) :
    ∃ before, transport.session? number = some before ∧ before.closed = session.closed := by
  rw [MemoryTransport.session?_change] at there
  split at there
  · obtain ⟨before, found, rfl⟩ := Option.map_eq_some_iff.mp there
    exact ⟨before, found, (same before).symm⟩
  · exact ⟨session, there, rfl⟩

theorem addTask (accounted : host.Accounted left) (operation : Operation) (bot : String) :
    (host.addTask operation bot).2.Accounted left := by
  refine accounted.congr (held_iff (fun _ => rfl) fun number => ?_) (fun there => ⟨_, there, rfl⟩) rfl
  rw [holds?, task?_addTask]
  split
  next same =>
    subst same
    rw [holds?, task?, List.getElem?_eq_none (Nat.le_refl _)]
    rfl
  next => rfl

/-- A task goes on and has the same session in hand. -/
theorem changeTask (accounted : host.Accounted left) (found : host.task? number = some task)
    {change : Task → Task} (holds : (change task).state.holds? = task.state.holds?) :
    (host.changeTask number change).Accounted left := by
  refine accounted.congr (held_iff (fun _ => rfl) fun other => ?_) (fun there => ⟨_, there, rfl⟩) rfl
  rw [holds?_changeTask found]
  split
  next same =>
    subst same
    rw [holds, holds?_eq found]
  next => rfl

/-- A task has opened a session and has it in hand. -/
theorem opens (accounted : host.Accounted left) (found : host.task? number = some task)
    (empty : task.state.holds? = none) {token : String} {session : Nat}
    {transport : MemoryTransport Nat}
    (opened : host.transport.openSession token = (.ok session, transport))
    (handlers : List Handler) (store : BotStore) :
    ({ host with store, transport }.setTaskState number
      (.answered (.connected handlers (.ok session)))).Accounted left := by
  obtain ⟨rfl, sessions, _⟩ := MemoryTransport.openSession_ok opened
  have found' : { host with store, transport }.task? number = some task := found
  have holds (other : TaskNumber) : ({ host with store, transport }.setTaskState number
      (.answered (.connected handlers (.ok host.transport.sessions.length)))).holds? other =
        if other = number then some host.transport.sessions.length else host.holds? other :=
    holds?_changeTask found' _ other
  have held (k : Nat) : ({ host with store, transport }.setTaskState number
      (.answered (.connected handlers (.ok host.transport.sessions.length)))).Held k ↔
        k = host.transport.sessions.length ∨ host.Held k := by
    constructor
    · rintro (registered | ⟨other, has⟩)
      · exact .inr (.inl registered)
      · rw [holds] at has
        split at has
        · exact .inl (Option.some.inj has).symm
        · exact .inr (.inr ⟨other, has⟩)
    · rintro (rfl | registered | ⟨other, has⟩)
      · exact .inr ⟨number, by rw [holds, if_pos rfl]⟩
      · exact .inl registered
      · refine .inr ⟨other, ?_⟩
        rw [holds, if_neg, has]
        rintro rfl
        rw [holds?_eq found, empty] at has
        cases has
  constructor
  · intro k record there
    change transport.sessions[k]? = some record at there
    rw [sessions, List.getElem?_append, List.getElem?_singleton] at there
    rw [held]
    split at there
    next old =>
      rw [accounted.open_iff there]
      exact ⟨fun open' => open'.imp_left .inr,
        fun open' => open'.imp_left fun either => either.resolve_left (Nat.ne_of_lt old)⟩
    next =>
      split at there
      next last =>
        obtain rfl := Option.some.inj there
        exact ⟨fun _ => .inl (.inl (by omega)), fun _ => rfl⟩
      next => cases there
  · intro k behind
    obtain ⟨bound, nobody⟩ := accounted.lost k behind
    rw [held]
    refine ⟨?_, fun either => either.elim (Nat.ne_of_lt bound) nobody⟩
    show k < transport.sessions.length
    rw [sessions, List.length_append]
    exact Nat.lt_add_right 1 bound

/-- A task has closed the session that it had in hand. -/
theorem closes (accounted : host.Accounted left) (orderly : host.Orderly) (custody : host.Custody)
    (paired : host.Paired) (found : host.task? number = some task) {running : Instance}
    {ending : Ending} {forced : Bool} {due deadline : Nat}
    (waiting : task.state = .waiting (.close running ending forced due deadline)) :
    ({ host with transport := host.transport.closeSession running.session }.setTaskState number
      (.answered (.closed running ending forced))).Accounted left := by
  have charge : task.state.charge? = some (.ended, running) := by rw [waiting]; rfl
  have has : host.holds? number = some running.session := by
    rw [holds?_eq found, waiting]
    rfl
  have found' : { host with transport := host.transport.closeSession running.session }.task?
      number = some task := found
  have held (k : Nat) :
      ({ host with transport := host.transport.closeSession running.session }.setTaskState number
        (.answered (.closed running ending forced))).Held k ↔
          k ≠ running.session ∧ host.Held k := by
    refine held_of_letGo orderly custody paired found charge has ?_ ?_ k
    · exact fun _ => rfl
    · exact fun other => holds?_changeTask found' _ other
  have kept : running.session ∉ left := by
    intro behind
    exact (accounted.lost running.session behind).2 (.inr ⟨number, has⟩)
  constructor
  · intro k record there
    change (host.transport.closeSession running.session).session? k = some record at there
    rw [MemoryTransport.session?_closeSession] at there
    rw [held]
    split at there
    next same =>
      obtain ⟨before, _, changed⟩ := Option.map_eq_some_iff.mp there
      have closed : record.closed = true := by
        split at changed
        next already =>
          rw [← changed]
          exact already
        next =>
          rw [← changed]
      rw [closed, same]
      exact ⟨nofun, fun either => either.elim (fun both => absurd rfl both.1) fun behind =>
        absurd behind kept⟩
    next different =>
      rw [accounted.open_iff there]
      exact ⟨fun open' => open'.imp_left fun held => ⟨different, held⟩,
        fun open' => open'.imp_left And.right⟩
  · intro k behind
    obtain ⟨bound, nobody⟩ := accounted.lost k behind
    rw [held]
    refine ⟨?_, fun both => nobody both.2⟩
    show k < (host.transport.closeSession running.session).sessions.length
    rw [host.transport.length_closeSession]
    exact bound

/-- A task has given up waiting for the session that it had in hand to be closed. -/
theorem givesUp (accounted : host.Accounted left) (orderly : host.Orderly)
    (custody : host.Custody) (paired : host.Paired) (found : host.task? number = some task)
    {running : Instance} {ending : Ending} {forced : Bool} {due deadline : Nat}
    (waiting : task.state = .waiting (.close running ending forced due deadline)) :
    (host.setTaskState number (.answered (.closed running ending true))).Accounted
      (left ++ [running.session]) := by
  have charge : task.state.charge? = some (.ended, running) := by rw [waiting]; rfl
  have has : host.holds? number = some running.session := by
    rw [holds?_eq found, waiting]
    rfl
  have held (k : Nat) :
      (host.setTaskState number (.answered (.closed running ending true))).Held k ↔
        k ≠ running.session ∧ host.Held k := by
    refine held_of_letGo orderly custody paired found charge has ?_ ?_ k
    · exact fun _ => rfl
    · exact fun other => holds?_changeTask found _ other
  constructor
  · intro k record there
    rw [accounted.open_iff there, held, List.mem_append, List.mem_singleton]
    by_cases same : k = running.session
    · subst same
      exact ⟨fun _ => .inr (.inr rfl), fun _ => .inl (.inr ⟨number, has⟩)⟩
    · exact ⟨fun open' => open'.imp (⟨same, ·⟩) .inl,
        fun open' => open'.imp And.right fun behind => behind.resolve_right same⟩
  · intro k behind
    rw [List.mem_append, List.mem_singleton] at behind
    rw [held]
    rcases behind with before | rfl
    · obtain ⟨bound, nobody⟩ := accounted.lost k before
      exact ⟨bound, fun both => nobody both.2⟩
    · obtain ⟨loop, there, _, session, _⟩ := (custody.charged found charge).2
      exact ⟨session ▸ paired.opened there, fun both => both.1 rfl⟩

theorem answer (accounted : host.Accounted left) (orderly : host.Orderly) (custody : host.Custody)
    (paired : host.Paired) (found : host.task? number = some task) {wait : Wait}
    (waiting : task.state = .waiting wait) {answer : Answer} {answered : Host}
    (taken : host.answer? number task wait = some (answer, answered)) :
    (answered.setTaskState number (.answered answer)).Accounted
      (left ++ (host.givenUp? (.step (.task number))).toList) := by
  have inTime (early : ∀ running ending forced due deadline,
      wait = .close running ending forced due deadline →
        ¬(host.now < due ∧ deadline ≤ host.now)) :
      left ++ (host.givenUp? (.step (.task number))).toList = left := by
    rw [givenUp?_eq_none found, Option.toList_none, List.append_nil]
    intro running ending forced due deadline closing
    rw [waiting] at closing
    exact early running ending forced due deadline (TaskState.waiting.inj closing)
  rcases answer?_holds taken with ⟨running, ending, forced, due, deadline, rfl⟩ |
    ⟨handlers, session, rfl⟩ | ⟨other, holds⟩
  · cases answers_of_answer? taken with
    | closed _ _ _ _ reached =>
      rw [inTime]
      · exact accounted.closes orderly custody paired found waiting
      · rintro _ _ _ _ _ ⟨⟩ late
        omega
    | unclosed _ _ _ early passed =>
      rw [givenUp?_of_late found waiting early passed]
      exact accounted.givesUp orderly custody paired found waiting
  · have effect := answer?_transport taken
    obtain ⟨store, transport, rfl⟩ := answer?_eq taken
    rcases effect with ⟨spent, _⟩ | ⟨_, token, due, deadline, _, rfl, same, opened⟩ |
      ⟨_, _, _, _, _, _, other, _⟩
    · cases spent
    · cases same
      rw [inTime (by rintro _ _ _ _ _ ⟨⟩)]
      exact accounted.opens found (by rw [waiting]; rfl) opened handlers store
    · cases other
  · have effect := answer?_transport taken
    obtain ⟨store, transport, rfl⟩ := answer?_eq taken
    rcases effect with ⟨_, same⟩ | ⟨handlers, token, due, deadline, session, rfl, rfl, _⟩ |
      ⟨_, _, _, _, _, rfl, rfl, _⟩
    · obtain rfl : transport = host.transport := same
      rw [inTime]
      · have read : { host with store }.Accounted left :=
          accounted.congr (fun _ => Iff.rfl) (fun there => ⟨_, there, rfl⟩) rfl
        have found' : { host with store }.task? number = some task := found
        exact read.changeTask found' (by rw [waiting]; exact holds)
      · intro _ _ _ _ _ closing
        exact absurd closing (other _ _ _ _ _)
    · cases holds
    · cases holds

/-- Every open session stays accounted for when a task goes on: what it has in hand then, it had before, or the
registry has handed it over. -/
theorem resume (accounted : host.Accounted left) (custody : host.Custody)
    (found : host.task? number = some task) {answer : Answer}
    (answered : task.state = .answered answer) : (host.resume number task answer).Accounted left := by
  have sessions {other : Nat} {session : MemorySession Nat}
      (there : (host.resume number task answer).transport.session? other = some session) :
      ∃ before, host.transport.session? other = some before ∧
        before.closed = session.closed := by
    rcases host.resume_launches number task answer with ⟨same, _⟩ | ⟨_, _, _, launched⟩
    · rw [same] at there
      exact ⟨session, there, rfl⟩
    · rw [launched] at there
      refine session?_of_change ?_ there
      intro session
      split <;> rfl
  have count := host.openedCount_resume number task answer
  obtain ⟨_, others⟩ := host.resume_frame number task answer
  have had : host.holds? number = (TaskState.answered answer).holds? := by
    rw [holds?_eq found, answered]
  have registers := resume_registers found answer
  generalize host.resume number task answer = next at registers others sessions count
  have same {other : TaskNumber} (different : other ≠ number) :
      next.holds? other = host.holds? other := by
    rw [holds?, others different, holds?]
  refine accounted.congr ?_ (fun there => sessions there) count
  cases registers with
  | keeps _ lock state registry found' goes owes holds =>
    refine held_iff (fun bot => by rw [running?, registry, running?]) fun other => ?_
    by_cases own : other = number
    · subst own
      rw [holds?_eq found', had]
      exact holds
    · exact same own
  | takes running ending locked registered unrecords =>
    subst locked
    have has : ((host.unregister task.bot).tearDown number running ending).holds? number =
        some running.session := by
      have found' : ((host.unregister task.bot).tearDown number running ending).task? number =
          some { task with
            state := .waiting (.join running ending (host.now + host.settings.closeTimeout)) } :=
        waitFor_found found
      rw [holds?_eq found']
      rfl
    exact held_iff_of_handOver registered (running?_unregister host task.bot) had has same
  | enrolls running recorded =>
    subst recorded
    have charge : task.state.charge? = some (.launched, running) := by
      rw [answered]
      rfl
    have ofBot := (custody.charged found charge).1
    have gone := custody.vacant found (Task.vacant_of_charge charge)
    have enrolled (bot : String) :
        ((host.enroll running).finish number task (.ok .done)).running? bot =
          if bot = task.bot then some running else host.running? bot := by
      rw [finish_eq, ← ofBot]
      exact running?_enroll host running bot
    have has : ((host.enroll running).finish number task (.ok .done)).holds? number = none := by
      rw [holds?_eq (task?_finish_self ((host.task?_enroll running number).trans found) _)]
      rfl
    have before (bot : String) : host.running? bot = if bot = task.bot then none
        else ((host.enroll running).finish number task (.ok .done)).running? bot := by
      rw [enrolled]
      split
      next own => rw [own, gone]
      next => rfl
    exact fun session => (held_iff_of_handOver ((enrolled task.bot).trans (if_pos rfl)) before has had
      (fun different => (same different).symm) session).symm

theorem step (accounted : host.Accounted left) (reachable : host.Reachable) {process : Process}
    (stepped : host.advance process = some next) :
    next.Accounted (left ++ (host.givenUp? (.step process)).toList) := by
  cases process with
  | loop generation =>
    have kept : left ++ (host.givenUp? (.step (.loop generation))).toList = left :=
      List.append_nil left
    rw [kept]
    obtain ⟨loop, found, _, waiting, state, recorded, sendsStarted, ⟨rfl, _⟩ | ⟨rfl, _⟩⟩ :=
      advance_loop_cases stepped
    · exact accounted.congr (fun _ => Iff.rfl) (fun there => ⟨_, there, rfl⟩) rfl
    · have moved :
          (host.moveLoop generation waiting state recorded sendsStarted).Accounted left :=
        accounted.congr (fun _ => Iff.rfl) (fun there => ⟨_, there, rfl⟩) rfl
      exact moved.addTask _ _
  | task number =>
    obtain ⟨task, found, ⟨created, rfl⟩ | ⟨wait, answer, answered, waiting, taken, rfl⟩ |
      ⟨answer, answered, rfl⟩⟩ := advance_task_cases stepped
    · rw [givenUp?_eq_none found (by simp [created]), Option.toList_none, List.append_nil]
      obtain ⟨locks, lock, asks⟩ := host.requestLock_eq number task
      rw [asks]
      have asked : { host with locks }.Accounted left :=
        accounted.congr (fun _ => Iff.rfl) (fun there => ⟨_, there, rfl⟩) rfl
      have found' : { host with locks }.task? number = some task := found
      exact asked.changeTask found' (by rw [created]; rfl)
    · exact accounted.answer reachable.orderly reachable.custody reachable.paired found waiting taken
    · rw [givenUp?_eq_none found (by simp [answered]), Option.toList_none, List.append_nil]
      exact accounted.resume reachable.custody found answered

theorem move (accounted : host.Accounted left) (reachable : host.Reachable) {move : Move}
    (made : host.after? move = some next) :
    next.Accounted (left ++ (host.givenUp? move).toList) := by
  by_cases isStep : ∃ process, move = .step process
  · obtain ⟨process, rfl⟩ := isStep
    exact accounted.step reachable made
  have kept : left ++ (host.givenUp? move).toList = left := by
    cases move with
    | step process => exact absurd ⟨process, rfl⟩ isStep
    | _ => exact List.append_nil left
  rw [kept]
  cases move with
  | step process => exact absurd ⟨process, rfl⟩ isStep
  | begin operation bot =>
    simp only [after?] at made
    split at made
    · cases made
      exact accounted.addTask operation bot
    · cases made
  | shutdown =>
    cases made
    exact @stopAll_kept (fun host => host.Accounted left)
      (fun bot accounted => accounted.addTask .stop bot) host accounted
  | register bot =>
    cases made
    rw [register_eq]
    exact accounted.congr (fun _ => Iff.rfl) (fun there => ⟨_, there, rfl⟩) rfl
  | inject token event =>
    cases made
    rw [inject_eq]
    exact accounted.congr (fun _ => Iff.rfl) (fun there => ⟨_, there, rfl⟩) rfl
  | endSession token =>
    cases made
    refine accounted.congr (fun _ => Iff.rfl) (fun there => ?_) ?_
    · change (host.transport.endSession token).2.session? _ = _ at there
      unfold MemoryTransport.endSession at there
      split at there
      · exact ⟨_, there, rfl⟩
      · obtain ⟨before, found, same⟩ := session?_of_change (by exact fun _ => rfl) there
        exact ⟨before, found, same⟩
    · show (host.transport.endSession token).2.openedCount = host.transport.openedCount
      unfold MemoryTransport.endSession
      split
      · rfl
      · exact MemoryTransport.length_change ..
  | reject | accept | clearSent | setDelays | setFaults | pass =>
    cases made
    exact accounted.congr (fun _ => Iff.rfl) (fun there => ⟨_, there, rfl⟩) rfl

theorem seeded (patterns : PatternEngine) (settings : ManagerSettings) (bots : List Bot) :
    (Host.seeded patterns settings bots).Accounted [] where
  open_iff := nofun
  lost := nofun

end Accounted

namespace Housed

theorem iff_accounted : host.Housed ↔ host.Accounted [] := by
  constructor
  · rintro ⟨open_iff⟩
    exact ⟨fun there => by simpa using open_iff there, nofun⟩
  · rintro ⟨open_iff, _⟩
    exact ⟨fun there => by simpa using open_iff there⟩

/-- As long as nobody gives up, every open session is somebody's. -/
theorem move (housed : host.Housed) (reachable : host.Reachable) (patient : host.Patient)
    {move : Move} (made : host.after? move = some next) : next.Housed := by
  have later := (iff_accounted.mp housed).move reachable made
  rw [patient.givenUp?] at later
  exact iff_accounted.mpr later

theorem seeded (patterns : PatternEngine) (settings : ManagerSettings) (bots : List Bot) :
    (Host.seeded patterns settings bots).Housed :=
  iff_accounted.mpr (.seeded patterns settings bots)

end Housed

end Host

end BotHost
