/-
Starts of one bot that are made at once.

Of the starts of a bot that does not run, only one opens a session: it does so under the bot's lock,
and has registered its instance before any other start gets beyond the lock and finds that the bot
runs. So the starts are first all without a session, then one of them has one and the others wait,
and then the bot runs.
-/

import BotHost.Proofs.Manager.Completion
import BotHost.Proofs.Manager.Starting

namespace BotHost

/-- Whether a move is a step, the passing of time, or the beginning of a start of the bot. -/
def Move.startsOnly (bot : String) : Move → Bool
  | .step _ | .pass _ => true
  | .begin operation id => operation == .start && id == bot
  | _ => false

namespace Host

variable {host next : Host} {number : TaskNumber} {task : Task} {bot token : String}

/-! ### The contest -/

/-- How far the starts of a bot have come that were begun when there were so many tasks and sessions:
none of them has a session yet, or one has and the bot does not run yet, or the bot runs. -/
inductive Contest (host : Host) (bot token : String) (earlier opened : Nat) : Prop
  | free (absent : host.running? bot = none) (count : host.transport.openedCount = opened)
      (contend : ∀ {number : TaskNumber} {task : Task}, earlier ≤ number →
        host.task? number = some task → task.operation = .start →
          task.state.contends token ∨ task.state.connects token)
  | carried (winner : TaskNumber) (task : Task) (late : earlier ≤ winner)
      (found : host.task? winner = some task) (starts : task.operation = .start)
      (carries : task.state.carries opened) (absent : host.running? bot = none)
      (listens : host.Listens opened)
      (count : host.transport.openedCount = opened + 1)
      (contend : ∀ {number : TaskNumber} {task : Task}, number ≠ winner → earlier ≤ number →
        host.task? number = some task → task.operation = .start →
          task.state.contends token ∨ task.state.connects token)
  | won (winner : TaskNumber) (late : earlier ≤ winner)
      (found : host.task? winner = some ⟨.start, bot, none, .finished (.ok .done)⟩)
      (running : Instance) (registered : host.running? bot = some running)
      (session : running.session = opened) (listens : host.Listens opened)
      (count : host.transport.openedCount = opened + 1)
      (contend : ∀ {number : TaskNumber} {task : Task}, number ≠ winner → earlier ≤ number →
        host.task? number = some task → task.operation = .start →
          task.state.contends token ∨ task.state = .finished (.error (.alreadyRunning bot)))

/-- All calls that were begun since there were so many tasks start the bot; the calls before them have
ended. -/
structure OnlyStarts (host : Host) (bot : String) (earlier : Nat) : Prop where
  enough : earlier ≤ host.tasks.length
  calls : ∀ {number : TaskNumber} {task : Task}, host.task? number = some task →
    task.operation.isCall = true → number < earlier ∧ task.state.ended = true ∨
      earlier ≤ number ∧ task.operation = .start ∧ task.bot = bot

variable {earlier opened : Nat}

/-- What happens aside may begin other starts and leaves the instance alone. -/
theorem Contest.aside (contest : host.Contest bot token earlier opened)
    (running : next.running? bot = host.running? bot)
    (count : next.transport.openedCount = host.transport.openedCount)
    (listens : host.Owned opened → host.Listens opened → next.Listens opened)
    (old : ∀ {number : TaskNumber} {task : Task}, next.task? number = some task →
      task.operation = .start → host.task? number = some task ∨ task.state = .created)
    (kept : ∀ {number : TaskNumber} {task : Task}, host.task? number = some task →
      task.operation = .start → next.task? number = some task) :
    next.Contest bot token earlier opened := by
  have contends {state : TaskState} (created : state = .created) : state.contends token := by
    rw [created]
    trivial
  cases contest with
  | free absent count' contend =>
    refine .free (running.trans absent) (count.trans count') fun late there starts => ?_
    rcases old there starts with before | created
    · exact contend late before starts
    · exact .inl (contends created)
  | carried winner task late found starts carries absent listens' count' contend =>
    refine .carried winner task late (kept found starts) starts carries (running.trans absent)
      (listens (.inr ⟨winner, task, found, starts, carries⟩) listens') (count.trans count')
      fun different late there starts => ?_
    rcases old there starts with before | created
    · exact contend different late before starts
    · exact .inl (contends created)
  | won winner late found instance' registered session listens' count' contend =>
    refine .won winner late (kept found rfl) instance' (running.trans registered) session
      (listens (.inl ⟨bot, instance', registered, session⟩) listens') (count.trans count')
      fun different late there starts => ?_
    rcases old there starts with before | created
    · exact contend different late before starts
    · exact .inl (contends created)

/-- The registered instance of the bot goes on. -/
theorem Contest.unfinished (contest : host.Contest bot token earlier opened)
    (custody : host.Custody) {running : Instance} {loop : SessionLoop}
    (registered : host.running? bot = some running)
    (there : host.loop? running.generation = some loop) : loop.state ≠ .finished := by
  cases contest with
  | free absent | carried _ _ _ _ _ _ absent =>
    rw [absent] at registered
    cases registered
  | won winner late found running' registered' session listens =>
    rw [registered'] at registered
    obtain rfl := Option.some.inj registered
    obtain ⟨_, _, _, _, hears⟩ := listens
    obtain ⟨loop', there', _, ofLoop, _⟩ := custody.registered registered'
    rw [there] at there'
    obtain rfl := Option.some.inj there'
    exact (hears there (ofLoop.trans session)).2

/-- A contest goes on when a task of another kind reaps the bot. That task has no session to launch a loop
with, and sessions are numbered, so there is one that it cannot have in hand. -/
theorem Contest.reap (contest : host.Contest bot token earlier opened) (reachable : host.Reachable)
    (found : host.task? number = some task) {generation : Nat}
    (operation : task.operation = .reap generation)
    (stepped : host.advance (.task number) = some next) :
    next.Contest bot token earlier opened ∧ next.tokenOf? bot = host.tokenOf? bot := by
  have reaps := reachable.reapers.reaps found operation
  have other : task.operation ≠ .start := by
    rw [operation]
    exact nofun
  have running := running?_of_reaps reachable.reapers found operation stepped
    (contest.unfinished reachable.custody)
  have bystands (session : Nat) (apart : ∀ {stage : Stage} {running : Instance},
      task.state.charge? = some (stage, running) → running.session ≠ session) :=
    bystands_of_reaps found reaps apart stepped
  have somewhere : host.Bystands next host.transport.openedCount := by
    refine bystands _ fun charge => ?_
    obtain ⟨_, loop, there, _, session, _⟩ := reachable.custody.charged found charge
    have bound := reachable.paired.opened there
    rw [← session]
    exact Nat.ne_of_lt bound
  have kept {other : TaskNumber} {record : Task} (there : host.task? other = some record)
      (starts : record.operation = .start) : other ≠ number := by
    rintro rfl
    rw [found] at there
    obtain rfl := Option.some.inj there
    rw [operation] at starts
    cases starts
  refine ⟨contest.aside running somewhere.count ?_ ?_ ?_, somewhere.token bot⟩
  · intro owned listens
    exact (bystands opened fun charge => owned.apart reachable.orderly reachable.custody
      reachable.paired found other charge).listens listens
  · intro other record there starts
    refine .inl ((advance_task_other stepped ?_).symm.trans there)
    rintro rfl
    obtain ⟨lock, state, there'⟩ := task?_after (show host.after? (.step (.task other)) =
      some next from stepped) found
    rw [there] at there'
    obtain rfl := Option.some.inj there'
    rw [show task.operation = .start from starts] at operation
    cases operation
  · intro other record there starts
    exact (advance_task_other stepped (kept there starts)).trans there

theorem Contest.loop (contest : host.Contest bot token earlier opened) (reachable : host.Reachable)
    {generation : Nat} (stepped : host.advance (.loop generation) = some next) :
    next.Contest bot token earlier opened ∧ next.tokenOf? bot = host.tokenOf? bot := by
  have listens (owned : host.Owned opened) (before : host.Listens opened) : next.Listens opened :=
    before.loop (owned.unmarked reachable.custody reachable.paired) stepped
  have kept {number : TaskNumber} {task : Task} (there : host.task? number = some task) :
      next.task? number = some task := by
    refine task?_after_of_ne (show host.after? (.step (.loop generation)) = some next from stepped)
      ?_ there
    rintro ⟨⟩
  obtain ⟨running, count, tokens, old⟩ : next.running? bot = host.running? bot ∧
      next.transport.openedCount = host.transport.openedCount ∧
      next.tokenOf? bot = host.tokenOf? bot ∧ ∀ {number : TaskNumber} {task : Task},
        next.task? number = some task → task.operation = .start →
          host.task? number = some task := by
    obtain ⟨loop, found, _, waiting, state, recorded, sendsStarted, ⟨rfl, _⟩ | ⟨rfl, _⟩⟩ :=
      advance_loop_cases stepped
    · exact ⟨rfl, rfl, rfl, fun there _ => there⟩
    · refine ⟨rfl, rfl, rfl, fun there starts => ?_⟩
      obtain ⟨rfl, rfl⟩ | there := task?_addTask_cases there
      · cases starts
      · exact there
  exact ⟨contest.aside running count listens (fun there starts => .inl (old there starts))
    fun there _ => kept there, tokens⟩

/-- A start that has no session yet takes a step that is none of the others' business. -/
theorem Contest.contends (contest : host.Contest task.bot token earlier opened)
    (startable : host.Startable task.bot token) (found : host.task? number = some task)
    (starts : task.operation = .start) (late : earlier ≤ number)
    (contends : task.state.contends token) (stepped : host.advance (.task number) = some next) :
    next.Contest task.bot token earlier opened ∧
      next.tokenOf? task.bot = host.tokenOf? task.bot := by
  obtain ⟨same, lock, state, there, comes⟩ :=
    advance_contends startable found starts contends stepped
  have running : next.running? task.bot = host.running? task.bot := by
    rw [same]
    rfl
  have count : next.transport.openedCount = host.transport.openedCount := by
    rw [same]
    rfl
  have tokens : next.tokenOf? task.bot = host.tokenOf? task.bot := by
    rw [same]
    rfl
  have listens (before : host.Listens opened) : next.Listens opened := by
    rw [same]
    exact before.kept rfl rfl
  have known {other : TaskNumber} {record : Task} (there' : next.task? other = some record) :
      other = number ∧ record.state = state ∨ host.task? other = some record := by
    by_cases own : other = number
    · subst own
      rw [there] at there'
      obtain rfl := Option.some.inj there'
      exact .inl ⟨rfl, rfl⟩
    · exact .inr ((advance_task_other stepped own).symm.trans there')
  have kept {winner : TaskNumber} {record : Task} (there' : host.task? winner = some record)
      (apart : ¬ record.state.contends token) : next.task? winner = some record := by
    refine (advance_task_other stepped ?_).trans there'
    rintro rfl
    rw [found] at there'
    obtain rfl := Option.some.inj there'
    exact apart contends
  have bids (absent : host.running? task.bot = none) :
      state.contends token ∨ state.connects token := by
    rcases comes with contends | ⟨_, connects⟩ | ⟨runs, _⟩
    · exact .inl contends
    · exact .inr connects
    · exact absurd absent runs
  refine ⟨?_, tokens⟩
  cases contest with
  | free absent count' contend =>
    refine .free (running.trans absent) (count.trans count') fun late' there' starts' => ?_
    rcases known there' with ⟨rfl, reached⟩ | before
    · exact reached ▸ bids absent
    · exact contend late' before starts'
  | carried winner record late' found' starts' carries absent listens' count' contend =>
    have apart : ¬ record.state.contends token := by
      intro contends'
      have idle := idle_of_contends contends'
      rw [(holds_of_carries carries).1] at idle
      cases idle
    refine .carried winner record late' (kept found' apart) starts' carries (running.trans absent)
      (listens listens') (count.trans count') fun different late'' there' starts'' => ?_
    rcases known there' with ⟨rfl, reached⟩ | before
    · exact reached ▸ bids absent
    · exact contend different late'' before starts''
  | won winner late' found' running' registered session listens' count' contend =>
    refine .won winner late' (kept found' id) running' (running.trans registered) session
      (listens listens') (count.trans count') fun different late'' there' starts'' => ?_
    rcases known there' with ⟨rfl, reached⟩ | before
    · rw [reached]
      rcases comes with contends | ⟨absent, _⟩ | ⟨_, finished⟩
      · exact .inl contends
      · rw [registered] at absent
        cases absent
      · exact .inr finished
    · exact contend different late'' before starts''

/-- The first start to ask for a session opens one. -/
theorem Contest.connects (absent : host.running? task.bot = none)
    (count : host.transport.openedCount = opened)
    (contend : ∀ {number : TaskNumber} {task : Task}, earlier ≤ number →
      host.task? number = some task → task.operation = .start →
        task.state.contends token ∨ task.state.connects token)
    (paired : host.Paired) (startable : host.Startable task.bot token)
    (found : host.task? number = some task) (starts : task.operation = .start)
    (late : earlier ≤ number) (connects : task.state.connects token)
    (stepped : host.advance (.task number) = some next) :
    next.Contest task.bot token earlier opened ∧
      next.tokenOf? task.bot = host.tokenOf? task.bot := by
  obtain ⟨handlers, transport, rfl, sessions⟩ := advance_connects startable found connects stepped
  have there : Host.task? (setTaskState { host with transport } number
      (.answered (.connected handlers (.ok host.transport.openedCount)))) number =
        some { task with
          state := .answered (.connected handlers (.ok host.transport.openedCount)) } :=
    task?_changeTask_self found _
  refine ⟨.carried number _ late there starts count absent ?_ ?_ ?_, rfl⟩
  · refine ⟨⟨token, none, false, false⟩, ?_, rfl, rfl, ?_⟩
    · show transport.sessions[opened]? = _
      rw [sessions, ← count]
      exact List.getElem?_concat_length
    · intro generation loop there' ofLoop
      have bound := paired.opened (show host.loop? generation = some loop from there')
      rw [ofLoop, count] at bound
      exact absurd bound (Nat.lt_irrefl _)
  · show transport.sessions.length = _
    rw [sessions, List.length_append, ← count]
    rfl
  · intro other record different late' there' starts'
    rw [advance_task_other stepped different] at there'
    exact contend late' there' starts'

/-- The start that has opened a session goes on to register its instance. -/
theorem Contest.carries (reachable : host.Reachable) (reachable' : next.Reachable)
    (startable : host.Startable task.bot token) (found : host.task? number = some task)
    (starts : task.operation = .start) (late : earlier ≤ number)
    (carries : task.state.carries opened) (listens : host.Listens opened)
    (count : host.transport.openedCount = opened + 1)
    (contend : ∀ {other : TaskNumber} {record : Task}, other ≠ number → earlier ≤ other →
      host.task? other = some record → record.operation = .start →
        record.bot = task.bot ∧ (record.state.contends token ∨ record.state.connects token))
    (stepped : host.advance (.task number) = some next) :
    next.Contest task.bot token earlier opened ∧
      next.tokenOf? task.bot = host.tokenOf? task.bot := by
  have inside := (holds_of_carries carries).2
  have waiting {other : TaskNumber} {record : Task} (different : other ≠ number)
      (late' : earlier ≤ other) (there : next.task? other = some record)
      (starts' : record.operation = .start) : record.state.contends token := by
    rw [advance_task_other stepped different] at there
    obtain ⟨sameBot, contends | connects⟩ := contend different late' there starts'
    · exact contends
    · exact absurd (reachable.orderly.alone found there inside (inside_of_connects connects) sameBot)
        different
  obtain ⟨count', listens', tokens, ⟨lock, state, there, carries'⟩ | ⟨there, running, registered,
    session⟩⟩ := advance_carries startable reachable.custody reachable.paired found carries listens
      stepped
  · have absent := reachable'.custody.vacant there (vacant_of_carries carries')
    exact ⟨.carried number _ late there starts carries' absent listens' (count'.trans count)
      fun different late' there' starts' => .inl (waiting different late' there' starts'), tokens⟩
  · refine ⟨.won number late ?_ running registered session listens' (count'.trans count)
      fun different late' there' starts' => .inl (waiting different late' there' starts'), tokens⟩
    rw [there, starts]

theorem Contest.step (contest : host.Contest bot token earlier opened) (reachable : host.Reachable)
    (startable : host.Startable bot token) (only : host.OnlyStarts bot earlier)
    {process : Process} (stepped : host.advance process = some next) :
    next.Contest bot token earlier opened ∧ next.tokenOf? bot = host.tokenOf? bot := by
  have reachable' : next.Reachable :=
    reachable.run (.move (show host.after? (.step process) = some next from stepped) (.rest next))
  cases process with
  | loop generation => exact contest.loop reachable stepped
  | task number =>
    obtain ⟨task, found, _⟩ := advance_task_cases stepped
    have unfinished {result : Except ManagerFault Success} : task.state ≠ .finished result := by
      intro finished
      rw [advance_of_finished found finished] at stepped
      cases stepped
    by_cases isCall : task.operation.isCall = true
    · rcases only.calls found isCall with ⟨_, ended⟩ | ⟨late, starts, rfl⟩
      · cases state : task.state with
        | finished result => exact absurd state unfinished
        | created | waiting | answered =>
          rw [state] at ended
          cases ended
      have contested := contest
      cases contest with
      | free absent count contend =>
        rcases contend late found starts with contends | connects
        · exact contested.contends startable found starts late contends stepped
        · exact Contest.connects absent count contend reachable.paired startable found starts late
            connects stepped
      | carried winner record late' found' starts' carries absent listens count contend =>
        have sameBot {other : TaskNumber} {record : Task} (late : earlier ≤ other)
            (there : host.task? other = some record) (starts : record.operation = .start) :
            record.bot = task.bot := by
          rcases only.calls there (by rw [starts]; rfl) with ⟨early, _⟩ | ⟨_, _, same⟩
          · exact absurd late (Nat.not_le_of_lt early)
          · exact same
        by_cases own : number = winner
        · subst own
          rw [found] at found'
          obtain rfl := Option.some.inj found'
          exact Contest.carries reachable reachable' startable found starts late carries listens count
            (fun different late' there starts' =>
              ⟨sameBot late' there starts', contend different late' there starts'⟩) stepped
        · rcases contend own late found starts with contends | connects
          · exact contested.contends startable found starts late contends stepped
          · exact absurd (reachable.orderly.alone found' found (holds_of_carries carries).2
              (inside_of_connects connects) (sameBot late' found' starts').symm) own
      | won winner late' found' running registered session listens count contend =>
        by_cases own : number = winner
        · subst own
          rw [found] at found'
          exact absurd (congrArg Task.state (Option.some.inj found')) unfinished
        · rcases contend own late found starts with contends | finished
          · exact contested.contends startable found starts late contends stepped
          · exact absurd finished unfinished
    · cases operation : task.operation with
      | reap generation => exact contest.reap reachable found operation stepped
      | _ =>
        rw [operation] at isCall
        exact absurd rfl isCall

/-! ### Runs of starts -/

theorem length_tasks_le {move : Move} (made : host.after? move = some next) :
    host.tasks.length ≤ next.tasks.length := by
  cases count : host.tasks.length with
  | zero => exact Nat.zero_le _
  | succ before =>
    have bound : before < host.tasks.length := by omega
    obtain ⟨lock, state, there⟩ := task?_after made
      (show host.task? before = some host.tasks[before] from List.getElem?_eq_getElem bound)
    exact next.task?_lt there

theorem OnlyStarts.step (only : host.OnlyStarts bot earlier) {process : Process}
    (stepped : host.advance process = some next) : next.OnlyStarts bot earlier := by
  have made : host.after? (.step process) = some next := stepped
  have run : Run host [.step process] next := .move made (.rest next)
  refine ⟨Nat.le_trans only.enough (length_tasks_le made), ?_⟩
  intro number task there isCall
  obtain ⟨before, found⟩ : ∃ before, host.task? number = some before := by
    cases process with
    | loop generation =>
      obtain ⟨loop, found, _, waiting, state, recorded, sendsStarted, ⟨rfl, _⟩ | ⟨rfl, _⟩⟩ :=
        advance_loop_cases stepped
      · exact ⟨task, there⟩
      · obtain ⟨rfl, rfl⟩ | there := task?_addTask_cases there
        · cases isCall
        · exact ⟨task, there⟩
    | task other =>
      by_cases own : number = other
      · subst own
        obtain ⟨before, found, _⟩ := advance_task_cases stepped
        exact ⟨before, found⟩
      · exact ⟨task, (advance_task_other stepped own).symm.trans there⟩
  obtain ⟨lock, state, there'⟩ := run.task? found
  rw [there] at there'
  obtain rfl := Option.some.inj there'
  rcases only.calls found isCall with ⟨early, ended⟩ | late
  · rw [run.task?_of_ended found ended] at there
    exact .inl ⟨early, Option.some.inj there ▸ ended⟩
  · exact .inr late

/-- The starts of a bot as they go on. -/
structure Contested (host : Host) (bot token : String) (earlier opened : Nat) : Prop where
  reachable : host.Reachable
  startable : host.Startable bot token
  only : host.OnlyStarts bot earlier
  contest : host.Contest bot token earlier opened

theorem Contested.move (contested : host.Contested bot token earlier opened) {move : Move}
    (starts : move.startsOnly bot = true) (made : host.after? move = some next) :
    next.Contested bot token earlier opened := by
  have reachable := contested.reachable.run (.move made (.rest next))
  have bound := Nat.le_trans contested.only.enough (length_tasks_le made)
  cases move with
  | step process =>
    obtain ⟨contest, stored⟩ := contested.contest.step contested.reachable contested.startable
      contested.only made
    exact ⟨reachable, contested.startable.step made stored, contested.only.step made, contest⟩
  | pass milliseconds =>
    cases made
    obtain ⟨_, startable, only, contest⟩ := contested
    refine ⟨reachable, ⟨startable.reliable, startable.stored, startable.accepted,
      startable.prompt⟩, ⟨only.enough, only.calls⟩, ?_⟩
    exact contest.aside rfl rfl
      (fun _ listens => listens.kept rfl rfl)
      (fun there _ => .inl there) fun there _ => there
  | begin operation other =>
    obtain ⟨rfl, rfl⟩ : operation = .start ∧ other = bot := by simpa [Move.startsOnly] using starts
    cases made
    obtain ⟨_, startable, only, contest⟩ := contested
    refine ⟨reachable, ⟨startable.reliable, startable.stored, startable.accepted,
      startable.prompt⟩, ⟨bound, ?_⟩, ?_⟩
    · intro number task there isCall
      obtain ⟨rfl, rfl⟩ | there := task?_addTask_cases there
      · exact .inr ⟨only.enough, rfl, rfl⟩
      · exact only.calls there isCall
    · refine contest.aside rfl rfl
        (fun _ listens => listens.kept rfl rfl) ?_ ?_
      · intro number task there _
        obtain ⟨rfl, rfl⟩ | there := task?_addTask_cases there
        · exact .inr rfl
        · exact .inl there
      · intro number task there _
        exact task?_addTask_of_some there _ _
  | _ => cases starts

theorem Contested.run (contested : host.Contested bot token earlier opened) {last : Host}
    {moves : List Move} (run : Run host moves last)
    (starts : ∀ move ∈ moves, move.startsOnly bot = true) :
    last.Contested bot token earlier opened := by
  induction run with
  | rest => exact contested
  | move made _ inductionHypothesis =>
    exact inductionHypothesis (contested.move (starts _ List.mem_cons_self) made)
      fun move member => starts move (List.mem_cons_of_mem _ member)

/-- A call that is begun in a run is one of the later tasks. -/
theorem Run.begun {last : Host} {moves : List Move} (run : Run host moves last)
    {operation : Operation} (member : Move.begin operation bot ∈ moves)
    (enough : earlier ≤ host.tasks.length) : ∃ number task, earlier ≤ number ∧
      last.task? number = some task ∧ task.operation = operation := by
  induction run with
  | rest => cases member
  | @move host next last move moves made run inductionHypothesis =>
    rcases List.mem_cons.mp member with rfl | later
    · simp only [after?] at made
      split at made
      · cases made
        obtain ⟨lock, state, there⟩ := run.task? (host.task?_addTask_self operation bot)
        exact ⟨_, _, enough, there, rfl⟩
      · cases made
    · exact inductionHypothesis later (Nat.le_trans enough (length_tasks_le made))

/-- One of the later calls has started the bot and opened a session, and all others have found that
the bot runs. -/
structure SingleStart (first last : Host) (bot : String) (winner : TaskNumber) : Prop where
  late : first.tasks.length ≤ winner
  succeeds : last.task? winner = some ⟨.start, bot, none, .finished (.ok .done)⟩
  fail : ∀ {number : TaskNumber} {task : Task}, number ≠ winner → first.tasks.length ≤ number →
    last.task? number = some task → task.operation.isCall = true →
      task.state = .finished (.error (.alreadyRunning bot))
  opened : last.transport.openedCount = first.transport.openedCount + 1

theorem Run.singleStart {first last : Host} {moves : List Move} (reachable : first.Reachable)
    (before : first.Calm)
    (startable : first.Startable bot token) (absent : first.running? bot = none)
    (run : Run first moves last) (starts : ∀ move ∈ moves, move.startsOnly bot = true)
    (begun : Move.begin .start bot ∈ moves)
    (after : last.Calm) : ∃ winner, SingleStart first last bot winner := by
  have contested : first.Contested bot token first.tasks.length first.transport.openedCount := by
    refine ⟨reachable, startable, ⟨Nat.le_refl _, fun found isCall => .inl ?_⟩, .free absent rfl ?_⟩
    · exact ⟨first.task?_lt found, before.ended found isCall⟩
    · intro number task late found
      exact absurd (first.task?_lt found) (Nat.not_lt.mpr late)
  obtain ⟨_, _, only, contest⟩ := contested.run run starts
  have underWay {state : TaskState} (pending : state.contends token ∨ state.connects token) :
      state.ended = false := by
    cases state with
    | finished => exact absurd pending (by rintro (contends | connects) <;> assumption)
    | _ => rfl
  cases contest with
  | free _ _ contend =>
    obtain ⟨number, task, late, found, starts⟩ := run.begun begun (Nat.le_refl _)
    have pending := underWay (contend late found starts)
    rw [after.ended found (by rw [starts]; rfl)] at pending
    cases pending
  | carried winner task _ found starts carries =>
    have finished := after.ended found (by rw [starts]; rfl)
    have inside := (holds_of_carries carries).2
    generalize task.state = state at finished inside
    cases state with
    | finished => cases inside
    | created | waiting | answered => cases finished
  | won winner late found _ _ _ _ count contend =>
    refine ⟨winner, late, found, fun different late' there isCall => ?_, count⟩
    rcases only.calls there isCall with ⟨early, _⟩ | ⟨_, starts, _⟩
    · exact absurd late' (Nat.not_le_of_lt early)
    rcases contend different late' there starts with contends | finished
    · have pending := underWay (.inl contends)
      rw [after.ended there isCall] at pending
      cases pending
    · exact finished

/-! ### Calls that are made at once -/

/-- Whatever calls are made at once and however they are interleaved, from any host in which no call
is under way: wherever that has led, steps and time lead to their ends. And once all have ended, they
could have been made one after another, in the order in which they got their locks, with the same
results and the same effect. When they are starts of a bot that does not run and can be started, one
of them succeeds, with the only session that is opened, and the others find that the bot runs. -/
theorem Run.serial {first last : Host} {moves : List Move} (reachable : first.Reachable)
    (calm : first.Calm) (run : Run first moves last) :
    (∃ later final, Run last later final ∧ (∀ move ∈ later, move.carriesOn = true) ∧
      final.Calm) ∧
    (last.Calm → (∃ others serial, Serializes first moves last others serial) ∧
      ∀ {bot token : String}, first.Startable bot token → first.running? bot = none →
        (∀ move ∈ moves, move.startsOnly bot = true) → Move.begin .start bot ∈ moves →
          ∃ winner, SingleStart first last bot winner) := by
  constructor
  · obtain ⟨later, final, rest, carriesOn, ended⟩ := (reachable.run run).completes
    exact ⟨later, final, rest, carriesOn, fun task member => ended task (List.mem_filter.mp member).1⟩
  · intro calm'
    refine ⟨run.serializes reachable calm calm', fun startable absent starts begun => ?_⟩
    exact run.singleStart reachable calm startable absent starts begun calm'

/-- A bot is started twice at once: the second start asks for the lock while the first waits for its
session. -/
def startTwice : List Move :=
  [.begin .start "bot", .begin .start "bot"] ++ .replicate 5 (.step (.task 0)) ++
    [.step (.task 1)] ++ .replicate 4 (.step (.task 0)) ++ .replicate 4 (.step (.task 1))

theorem serial_startTwice : ∃ last,
    Run (seeded .unlimited {} [.plain "bot" "token"]) startTwice last ∧
      (∃ others serial,
        Serializes (seeded .unlimited {} [.plain "bot" "token"]) startTwice last others serial) ∧
      ∃ winner, SingleStart (seeded .unlimited {} [.plain "bot" "token"]) last "bot" winner := by
  have played : (((seeded .unlimited {} [.plain "bot" "token"]).play startTwice).map fun host =>
      host.tasks.all fun task => task.state.ended) = some true := by rfl
  obtain ⟨last, run, ended⟩ := Option.map_eq_some_iff.mp played
  have all : last.Calm := fun task member =>
    List.all_eq_true.mp ended task (List.mem_filter.mp member).1
  have calm := Calm.seeded .unlimited {} [.plain "bot" "token"]
  obtain ⟨serial, single⟩ :=
    ((run_iff.mpr run).serial ⟨.unlimited, {}, [.plain "bot" "token"], [], .rest _⟩ calm).2 all
  have startable : (seeded .unlimited {} [.plain "bot" "token"]).Startable "bot" "token" :=
    ⟨by decide, rfl, rfl, by decide⟩
  exact ⟨last, run_iff.mpr run, serial, single startable rfl (by decide) (by simp [startTwice])⟩

end Host

end BotHost
