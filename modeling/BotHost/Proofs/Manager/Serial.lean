/-
Calls one after another.

However calls are interleaved, they could have been made one after another. The lock gives the order:
if each call on a bot is begun only when the one that had the lock before has ended, and otherwise
everything takes the same steps at the same times, then every call has the same result, and the
registry, the store, the transport and the loops come to be the same.
-/

import BotHost.Proofs.Manager.Queueing

namespace BotHost

/-- Whether a move neither begins calls nor is a step. -/
def Move.isOuter : Move → Bool
  | .step _ | .begin _ _ | .shutdown => false
  | _ => true

namespace Host

/-- Whether a task is a call. -/
def isCall (host : Host) (number : TaskNumber) : Bool :=
  (host.task? number).any fun task => task.operation.isCall

/-- All calls on a bot have ended. -/
def Unoccupied (host : Host) (bot : String) : Prop :=
  ∀ task ∈ host.tasks, task.operation.isCall = true → task.bot = bot → task.state.ended = true

/-- A call on a bot is begun only if no other is under way. -/
def Admits (host : Host) : Move → Prop
  | .begin _ bot => host.Unoccupied bot
  | .shutdown => False
  | _ => True

/-- The calls on each bot are made one after another. -/
def OneByOne : Host → List Move → Prop
  | _, [] => True
  | host, move :: moves =>
    host.Admits move ∧ ∀ next, host.after? move = some next → OneByOne next moves

/-- The call that gets its lock by a move. -/
def locked? (host : Host) : Move → Option TaskNumber
  | .step (.task number) =>
    if (host.task? number).any fun task => task.operation.isCall && task.state.queues then
      some number
    else none
  | _ => none

/-- The calls that get their locks in the course of a run, in this order. -/
def lockOrder : Host → List Move → List TaskNumber
  | _, [] => []
  | host, move :: moves =>
    (host.locked? move).toList ++
      match host.after? move with
      | some next => lockOrder next moves
      | none => []

theorem OneByOne.append {host middle : Host} {moves others : List Move}
    (first : OneByOne host moves) (run : Run host moves middle) (second : OneByOne middle others) :
    OneByOne host (moves ++ others) := by
  induction run with
  | rest => exact second
  | move made _ inductionHypothesis =>
    obtain ⟨admits, rest⟩ := first
    refine ⟨admits, fun next made' => ?_⟩
    rw [made] at made'
    obtain rfl := Option.some.inj made'
    exact inductionHypothesis (rest _ made) second

theorem lockOrder_cons {host next : Host} {move : Move} (made : host.after? move = some next)
    (moves : List Move) :
    lockOrder host (move :: moves) = (host.locked? move).toList ++ lockOrder next moves := by
  rw [lockOrder, made]

/-! ### Entering -/

namespace Orderly

variable {host : Host}

/-- Tasks that refer to one lock are about one bot. -/
theorem sameBot (orderly : host.Orderly) {number other : TaskNumber} {task record : Task} {lock : Nat}
    (found : host.task? number = some task) (found' : host.task? other = some record)
    (refers : task.lock = some lock) (refers' : record.lock = some lock) : task.bot = record.bot :=
  orderly.single (orderly.named found refers) (orderly.named found' refers')

/-- A lock that no task refers to is free: who asks for it has it at once, and the locks that others
refer to stay as they are. -/
theorem enters (orderly : host.Orderly) {number : TaskNumber} {task : Task}
    (found : host.task? number = some task) (created : task.state = .created)
    (free : ∀ {other : TaskNumber} {record : Task}, host.task? other = some record →
      record.bot = task.bot → record.state.outside = true) :
    ∃ lock locks, Run host [.step (.task number), .step (.task number)]
      (host.withTasks (host.tasks.modify number fun task =>
        { task with lock, state := .answered .locked }) locks) ∧
      ∀ {other : TaskNumber} {record : Task} {refers : Nat}, host.task? other = some record →
        record.lock = some refers → locks.locks[refers]? = host.locks.locks[refers]? := by
  let asked := host.requestLock number task
  let lock := (host.locks.obtain task.bot).1
  have found' : asked.task? number =
      some { task with lock := some lock, state := .waiting .lock } :=
    task?_changeTask_self found _
  have orderly' : asked.Orderly := orderly.requestLock found created
  obtain ⟨holder, record, there, refers, holds⟩ := orderly'.holder found' rfl
  have elsewhere {other : TaskNumber} {record : Task} (there : asked.task? other = some record)
      (refers : record.lock = some lock) : other = number := by
    by_contra different
    have there' : host.task? other = some record := by
      rw [← there]
      exact ((task?_changeTask _ number _ other).trans (if_neg different)).symm
    have sameBot := orderly'.sameBot there found' refers rfl
    have outside := free there' sameBot
    rw [(orderly.refers there').mpr outside] at refers
    cases refers
  obtain rfl : holder = number := elsewhere there refers
  have first : host.after? (.step (.task holder)) = some asked := advance_of_created found created
  have second : asked.after? (.step (.task holder)) =
      some (asked.setTaskState holder (.answered .locked)) :=
    advance_of_answers found' rfl (.locked rfl holds)
  have same : asked.setTaskState holder (.answered .locked) =
      host.withTasks (host.tasks.modify holder fun task =>
        { task with lock := some lock, state := .answered .locked }) asked.locks := by
    show Host.withTasks host ((host.tasks.modify holder _).modify holder _) _ = _
    rw [List.modify_modify_eq]
    rfl
  refine ⟨some lock, asked.locks, .move first (.move second ?_), ?_⟩
  · rw [same]
    exact .rest _
  · intro other record refers' there' held
    have different : other ≠ holder := by
      rintro rfl
      rw [found] at there'
      obtain rfl := Option.some.inj there'
      rw [(orderly.refers found).mpr (by rw [created]; rfl)] at held
      cases held
    have there'' : asked.task? other = some record :=
      (task?_changeTask _ holder _ other).trans ((if_neg different).trans there')
    have apart : refers' ≠ lock := by
      rintro rfl
      exact different (elsewhere there'' held)
    show ((host.locks.obtain task.bot).2.request lock holder).locks[refers']? = _
    rw [LockTable.lock?_request, if_neg apart, LockTable.lock?_obtain, if_neg]
    rintro ⟨_, beyond⟩
    exact absurd (orderly.made (orderly.named there' held)) (by rw [beyond]; exact Nat.lt_irrefl _)

end Orderly

/-! ### Following -/

/-- What the host does by some moves is done beside the copies by others. The copies are begun one
after another, in the order in which the originals get their locks, and nothing else that happens
from outside is different. -/
structure Follows (host : Host) (moves : List Move) (next copied : Host) (others : List Move)
    (placed added : List TaskNumber) (copies : List Task) (locks : LockTable) : Prop where
  run : Run copied others (next.withTasks copies locks)
  mirrors : Mirrors (placed ++ added) next.tasks copies
  lined : Lined next.locks.locks (placed ++ added) copies locks.locks
  oneByOne : OneByOne copied others
  outer : others.filter Move.isOuter = moves.filter Move.isOuter
  order : added.filter next.isCall = lockOrder host moves

/-! ### Following a move -/

/-- What happens from outside happens beside other tasks as well. -/
theorem after?_withTasks {host next : Host} {move : Move} (outer : move.isOuter = true)
    (made : host.after? move = some next) (tasks : List Task) (locks : LockTable) :
    (host.withTasks tasks locks).after? move = some (next.withTasks tasks locks) ∧
      next.tasks = host.tasks ∧ next.locks = host.locks := by
  cases move with
  | step | begin | shutdown => cases outer
  | register bot =>
    cases made
    constructor
    · show some ((host.withTasks tasks locks).register bot).2 = _
      unfold register
      rw [storeInsert_withTasks]
    · rw [register_eq]
      exact ⟨rfl, rfl⟩
  | inject token event =>
    cases made
    constructor
    · show some ((host.withTasks tasks locks).inject token event).2 = _
      unfold inject withTasks
      dsimp only
      split <;> rfl
    · rw [inject_eq]
      exact ⟨rfl, rfl⟩
  | endSession | reject | accept | clearSent | setDelays | setFaults | pass =>
    cases made
    exact ⟨rfl, rfl, rfl⟩

section

variable {host next : Host} {placed : List TaskNumber} {copies : List Task} {locks : LockTable}

/-- The copies need do nothing about a move that only concerns tasks without copies. -/
theorem Follows.nothing {move : Move} (made : host.after? move = some next)
    (same : host.withTasks copies locks = next.withTasks copies locks)
    (mirrors : Mirrors placed next.tasks copies)
    (lined : Lined next.locks.locks placed copies locks.locks) (inner : move.isOuter = false)
    (unlocked : host.locked? move = none) :
    Follows host [move] next (host.withTasks copies locks) [] placed [] copies locks where
  run := same ▸ .rest _
  mirrors := by rw [List.append_nil]; exact mirrors
  lined := by rw [List.append_nil]; exact lined
  oneByOne := trivial
  outer := by rw [List.filter_cons, inner]; rfl
  order := by rw [lockOrder_cons made, unlocked]; rfl

theorem Follows.once {move other : Move} {added : List TaskNumber} {copies' : List Task}
    {locks' : LockTable} (made : host.after? move = some next)
    (made' : (host.withTasks copies locks).after? other = some (next.withTasks copies' locks'))
    (mirrors : Mirrors (placed ++ added) next.tasks copies')
    (lined : Lined next.locks.locks (placed ++ added) copies' locks'.locks)
    (admits : (host.withTasks copies locks).Admits other)
    (outer : [other].filter Move.isOuter = [move].filter Move.isOuter)
    (uncalled : added.filter next.isCall = []) (unlocked : host.locked? move = none) :
    Follows host [move] next (host.withTasks copies locks) [other] placed added copies' locks' where
  run := .move made' (.rest _)
  mirrors := mirrors
  lined := lined
  oneByOne := ⟨admits, fun _ _ => trivial⟩
  outer := outer
  order := by rw [lockOrder_cons made, unlocked, uncalled]; rfl

theorem follows_outer {move : Move} (outer : move.isOuter = true)
    (mirrors : Mirrors placed host.tasks copies)
    (lined : Lined host.locks.locks placed copies locks.locks) (made : host.after? move = some next) :
    Follows host [move] next (host.withTasks copies locks) [move] placed [] copies locks := by
  obtain ⟨made', tasks, unlocked⟩ := after?_withTasks outer made copies locks
  refine .once made made' ?_ ?_ ?_ rfl rfl ?_
  · rw [List.append_nil, tasks]
    exact mirrors
  · rw [List.append_nil, unlocked]
    exact lined
  · cases move <;> trivial
  · cases move <;> first | rfl | cases outer

theorem follows_begin {operation : Operation} {bot : String}
    (mirrors : Mirrors placed host.tasks copies)
    (lined : Lined host.locks.locks placed copies locks.locks)
    (made : host.after? (.begin operation bot) = some next) :
    Follows host [.begin operation bot] next (host.withTasks copies locks) [] placed [] copies
      locks := by
  have made' := made
  simp only [after?] at made'
  split at made'
  next isCall =>
    cases made'
    exact .nothing made rfl (mirrors.call isCall bot) lined rfl rfl
  · cases made'

theorem follows_shutdown (mirrors : Mirrors placed host.tasks copies)
    (lined : Lined host.locks.locks placed copies locks.locks)
    (made : host.after? .shutdown = some next) :
    Follows host [.shutdown] next (host.withTasks copies locks) [] placed [] copies locks := by
  have made' := made
  cases made'
  obtain ⟨same, mirrors', lined'⟩ := @stopAll_kept (fun last =>
      host.withTasks copies locks = last.withTasks copies locks ∧
        Mirrors placed last.tasks copies ∧ Lined last.locks.locks placed copies locks.locks)
    (fun bot kept => ⟨kept.1, kept.2.1.call rfl bot, kept.2.2⟩) host ⟨rfl, mirrors, lined⟩
  exact .nothing made same mirrors' lined' rfl rfl

theorem follows_loop {generation : Nat} (orderly' : (host.withTasks copies locks).Orderly)
    (mirrors : Mirrors placed host.tasks copies)
    (lined : Lined host.locks.locks placed copies locks.locks)
    (made : host.after? (.step (.loop generation)) = some next) :
    ∃ added copies', Follows host [.step (.loop generation)] next (host.withTasks copies locks)
      [.step (.loop generation)] placed added copies' locks := by
  obtain ⟨loop, there, _, waiting, state, recorded, sendsStarted, moved⟩ := advance_loop_cases made
  have stepped : host.advanceLoop generation loop = some next := by
    rw [← made, after?, advance, there, Option.bind_some]
  have made' : (host.withTasks copies locks).after? (.step (.loop generation)) =
      some (next.withTasks (copies ++ next.tasks.drop host.tasks.length) locks) := by
    show (host.loop? generation).bind ((host.withTasks copies locks).advanceLoop generation) = _
    rw [there, Option.bind_some, advanceLoop_withTasks, stepped]
    rfl
  rcases moved with ⟨rfl, _⟩ | ⟨rfl, _⟩
  · refine ⟨[], copies, .once made ?_ ?_ ?_ trivial rfl rfl rfl⟩
    · have untouched : (host.moveLoop generation waiting state recorded sendsStarted).tasks =
          host.tasks := rfl
      rw [made', untouched, List.drop_length, List.append_nil]
    · rw [List.append_nil]
      exact mirrors
    · rw [List.append_nil]
      exact lined
  · have added : ((host.moveLoop generation waiting state recorded sendsStarted).addTask
          (.reap generation) loop.bot).2.tasks =
            host.tasks ++ [⟨.reap generation, loop.bot, none, .created⟩] := rfl
    refine ⟨[host.tasks.length], _, .once made made' ?_ ?_ trivial rfl ?_ rfl⟩
    · rw [added, List.drop_left]
      exact mirrors.reap generation loop.bot
    · rw [added, List.drop_left]
      exact lined.begin orderly' mirrors.length _ _ _
    · have notCall : ((host.moveLoop generation waiting state recorded sendsStarted).addTask
          (.reap generation) loop.bot).2.isCall host.tasks.length = false := by
        rw [isCall, task?_addTask, if_pos (show host.tasks.length =
          (host.moveLoop generation waiting state recorded sendsStarted).tasks.length from rfl)]
        rfl
      rw [List.filter_cons, notCall]
      rfl

/-- Nobody but the task itself has its lock, and no copy waits in front of it. So if its own copy has
not asked for the lock, no copy on its bot is under way. -/
theorem outside_of_holds (orderly : host.Orderly) (orderly' : (host.withTasks copies locks).Orderly)
    (twins : Twins placed host.tasks copies)
    (lined : Lined host.locks.locks placed copies locks.locks) {number : TaskNumber} {task : Task}
    (found : host.task? number = some task) (queues : task.state.queues = true) {lock : Nat}
    (refers : task.lock = some lock) (holds : host.locks.holds lock number = true)
    (late : ∀ {place : Nat} {copy : Task}, placed[place]? = some number →
      copies[place]? = some copy → copy.state = .created)
    {place : Nat} {copy : Task} (there : copies[place]? = some copy) (sameBot : copy.bot = task.bot) :
    copy.state.outside = true := by
  obtain ⟨other, here⟩ : ∃ other, placed[place]? = some other := by
    refine ⟨_, List.getElem?_eq_getElem ?_⟩
    rw [twins.length]
    exact (List.getElem?_eq_some_iff.mp there).1
  obtain ⟨record, copy', found', there', copies⟩ := twins.copied here
  change host.task? other = some record at found'
  rw [there] at there'
  obtain rfl := Option.some.inj there'
  have named := orderly.named found refers
  rcases copies.state with deferred | ⟨waits, rfl⟩
  · rw [deferred]
    refine TaskState.outside_deferred ?_
    by_contra entered
    obtain ⟨lock', held, refers', atLock, holder⟩ := orderly.held found' (by simpa using entered)
    rw [← sameBot, copies.bot, orderly.named found' refers'] at named
    obtain rfl := Option.some.inj named
    obtain ⟨held', atLock', holder'⟩ := host.locks.holds_iff.mp holds
    rw [atLock] at atLock'
    obtain rfl := Option.some.inj atLock'
    obtain rfl := Option.some.inj (holder.symm.trans holder')
    rw [found] at found'
    obtain rfl := Option.some.inj found'
    rw [TaskState.not_queues (by simpa using entered)] at queues
    cases queues
  · obtain ⟨lock', refers'⟩ := orderly.exists_lock found' (TaskState.outside_of_queues waits)
    rw [← sameBot, orderly.named found' refers'] at named
    obtain rfl := Option.some.inj named
    obtain ⟨first, here', holds'⟩ := lined.head orderly orderly' there waits refers' holds
    obtain ⟨copy', found'', held⟩ := orderly'.refers_of_holds holds'
    have none := (orderly'.refers found'').mpr (by rw [late here' found'']; rfl)
    rw [none] at held
    cases held

theorem follows_ask {number : TaskNumber} {task : Task} (orderly : host.Orderly)
    (mirrors : Mirrors placed host.tasks copies)
    (lined : Lined host.locks.locks placed copies locks.locks)
    (found : host.task? number = some task) (created : task.state = .created) :
    Follows host [.step (.task number)] (host.requestLock number task)
      (host.withTasks copies locks) [] placed [] copies locks := by
  have made : host.after? (.step (.task number)) = some (host.requestLock number task) :=
    advance_of_created found created
  refine .nothing made rfl ?_ (lined.request orderly number task) rfl ?_
  · exact mirrors.ask found created (some (host.locks.obtain task.bot).1)
  · simp [locked?, found, created, TaskState.queues]

/-- A task past its lock has a copy that has come as far. -/
theorem place_of_inside (twins : Twins placed host.tasks copies) {number : TaskNumber} {task : Task}
    (found : host.task? number = some task) (inside : task.state.inside = true) :
    ∃ (place : Nat) (copy : Task), placed[place]? = some number ∧ copies[place]? = some copy ∧
      copy.operation = task.operation ∧ copy.bot = task.bot ∧ copy.state = task.state := by
  obtain ⟨kept, begun⟩ := TaskState.deferred_eq (.inl inside)
  have member : number ∈ placed := by
    by_contra absent
    exact begun (kept.symm.trans (twins.away found absent).2)
  obtain ⟨place, here⟩ := List.mem_iff_getElem?.mp member
  obtain ⟨record, copy, found', there, copies⟩ := twins.copied here
  change host.task? number = some record at found'
  rw [found] at found'
  obtain rfl := Option.some.inj found'
  exact ⟨place, copy, here, there, copies.operation, copies.bot, copies.state_eq (.inl inside)⟩

/-- A task past its lock goes on, and so does its copy. -/
theorem follows_task {number : TaskNumber} {task : Task} (mirrors : Mirrors placed host.tasks copies)
    (found : host.task? number = some task) (made : host.after? (.step (.task number)) = some next)
    (inside : task.state.inside = true) {place : Nat} (here : placed[place]? = some number)
    {change : Task → Task} (state : TaskState) (past : state.inside = true ∨ state.ended = true)
    (changed : ∀ task, (change task).operation = task.operation ∧ (change task).bot = task.bot ∧
      (change task).state = state)
    (tasks : next.tasks = host.tasks.modify number change) {locks' : LockTable}
    (lined : Lined next.locks.locks placed (copies.modify place change) locks'.locks)
    (made' : (host.withTasks copies locks).after? (.step (.task place)) =
      some (next.withTasks (copies.modify place change) locks')) :
    Follows host [.step (.task number)] next (host.withTasks copies locks) [.step (.task place)]
      placed [] (copies.modify place change) locks' := by
  refine .once made made' ?_ ?_ trivial rfl rfl ?_
  · rw [List.append_nil, tasks]
    exact mirrors.advance here (fun member _ => mirrors.called member) past changed changed
  · rw [List.append_nil]
    exact lined
  · simp [locked?, found, TaskState.not_queues inside]

theorem follows_answer {number : TaskNumber} {task : Task} {wait : Wait} {answer : Answer}
    {answered : Host} (mirrors : Mirrors placed host.tasks copies)
    (lined : Lined host.locks.locks placed copies locks.locks)
    (found : host.task? number = some task) (waiting : task.state = .waiting wait)
    (other : wait ≠ .lock) (taken : host.answer? number task wait = some (answer, answered)) :
    ∃ others copies', Follows host [.step (.task number)]
      (answered.setTaskState number (.answered answer)) (host.withTasks copies locks) others placed
      [] copies' locks := by
  have inside : task.state.inside = true := by
    rw [waiting]
    exact TaskState.inside_waiting other
  obtain ⟨place, copy, here, there, _, bot, state⟩ := place_of_inside mirrors.toTwins found inside
  have made : host.after? (.step (.task number)) =
      some (answered.setTaskState number (.answered answer)) :=
    advance_of_answers found waiting (answers_of_answer? taken)
  have made' : (host.withTasks copies locks).after? (.step (.task place)) =
      some ((answered.withTasks copies locks).setTaskState place (.answered answer)) := by
    refine advance_of_answers (show (host.withTasks copies locks).task? place = some copy from there)
      (state.trans waiting) (answers_of_answer? ?_)
    rw [answer?_withTasks host copies locks other bot, taken]
    rfl
  obtain ⟨store, transport, rfl⟩ := answer?_eq taken
  refine ⟨_, copies.modify place fun task => { task with state := .answered answer },
    follows_task mirrors found made inside here (.answered answer) (.inl rfl) ?_ rfl
      (lined.modify place fun _ => rfl) made'⟩
  exact fun _ => ⟨rfl, rfl, rfl⟩

/-- A copy goes on as its task does. Whether the task waits again or ends, the copy has nothing but a lock of its
own. -/
theorem follows_resume {number : TaskNumber} {task : Task} {answer : Answer}
    (orderly : host.Orderly) (orderly' : (host.withTasks copies locks).Orderly)
    (mirrors : Mirrors placed host.tasks copies)
    (lined : Lined host.locks.locks placed copies locks.locks) (found : host.task? number = some task)
    (answered : task.state = .answered answer) :
    ∃ others copies' locks', Follows host [.step (.task number)] (host.resume number task answer)
      (host.withTasks copies locks) others placed [] copies' locks' := by
  have inside : task.state.inside = true := by rw [answered]; rfl
  obtain ⟨place, copy, here, there, operation, bot, state⟩ := place_of_inside mirrors.toTwins found
    inside
  have made : host.after? (.step (.task number)) = some (host.resume number task answer) :=
    advance_of_answered found answered
  have made' : (host.withTasks copies locks).after? (.step (.task place)) =
      some ((host.withTasks copies locks).resume place copy answer) :=
    advance_of_answered (show (host.withTasks copies locks).task? place = some copy from there)
      (state.trans answered)
  have alike := resume_alike host number place copies locks operation bot answer
  generalize host.resume number task answer = next at made alike
  generalize (host.withTasks copies locks).resume place copy answer = next' at made' alike
  have released {base : Host} (unlocked : base.locks = host.locks) :=
    lined.release orderly orderly' mirrors.toTwins unlocked found inside there (state ▸ inside) bot
  cases alike with
  | waits base wait other untouched unlocked =>
    refine ⟨_, copies.modify place fun task => { task with state := .waiting wait }, locks,
      follows_task mirrors found made inside here (.waiting wait)
        (.inl (TaskState.inside_waiting other)) ?_ ?_ ?_ made'⟩
    · exact fun _ => ⟨rfl, rfl, rfl⟩
    · rw [← untouched]
      rfl
    · show Lined base.locks.locks placed _ _
      rw [unlocked]
      exact lined.modify place fun _ => TaskState.not_queues (TaskState.inside_waiting other)
  | ends base result untouched unlocked =>
    rw [finish_eq (base.withTasks copies locks)] at made'
    rw [finish_eq base] at made ⊢
    refine ⟨_, copies.modify place fun task => { task with lock := none, state := .finished result },
      _, follows_task mirrors found made inside here (.finished result) (.inr rfl) ?_ ?_
        ((released unlocked).modify place fun _ => rfl) made'⟩
    · exact fun _ => ⟨rfl, rfl, rfl⟩
    · rw [← untouched]
      rfl
  | deletes =>
    rw [finishDeleted_eq (host.withTasks copies locks)] at made'
    rw [finishDeleted_eq host] at made ⊢
    refine ⟨_, copies.modify place fun task =>
      { task with lock := none, state := .finished (.ok .done) },
      _, follows_task mirrors found made inside here (.finished (.ok .done)) (.inr rfl) ?_ rfl ?_
        made'⟩
    · exact fun _ => ⟨rfl, rfl, rfl⟩
    · rw [locks_finishDeleted, locks_finishDeleted]
      exact (released rfl).modify place fun _ => rfl

/-- Calls whose copies are not past their locks have ended. -/
theorem unoccupied_of_outside (mirrors : Mirrors placed host.tasks copies) {bot : String}
    (outside : ∀ {place : Nat} {copy : Task}, copies[place]? = some copy → copy.bot = bot →
      copy.state.outside = true) : (host.withTasks copies locks).Unoccupied bot := by
  intro copy member isCall sameBot
  obtain ⟨place, there⟩ := List.mem_iff_getElem?.mp member
  have here := List.getElem?_eq_getElem (l := placed) (i := place) (by
    rw [mirrors.length]
    exact (List.getElem?_eq_some_iff.mp there).1)
  obtain ⟨task, copy', found, there', same⟩ := mirrors.copied here
  rw [show copies[place]? = some copy from there] at there'
  obtain rfl := Option.some.inj there'
  have begun := mirrors.called (List.mem_of_getElem? here) found (same.operation ▸ isCall)
  have ended := outside there sameBot
  rcases same.state with deferred | ⟨queues, rfl⟩
  · rw [← deferred] at begun
    generalize copy.state = state at begun ended
    cases state with
    | created => exact absurd rfl begun
    | finished => rfl
    | waiting | answered => cases ended
  · rw [TaskState.outside_of_queues queues] at ended
    cases ended

/-! ### When a task gets its lock -/

section

variable {number : TaskNumber} {task : Task} {lock : Nat} (orderly : host.Orderly)
  (orderly' : (host.withTasks copies locks).Orderly) (mirrors : Mirrors placed host.tasks copies)
  (lined : Lined host.locks.locks placed copies locks.locks)
  (found : host.task? number = some task) (waiting : task.state = .waiting .lock)
  (refers : task.lock = some lock) (holds : host.locks.holds lock number = true)

include found waiting refers holds

theorem after?_locked :
    host.after? (.step (.task number)) = some (host.setTaskState number (.answered .locked)) :=
  advance_of_answers found waiting (.locked refers holds)

include orderly orderly' mirrors lined

/-- The copy has not begun: it asks for its lock now and has it at once. -/
theorem follows_lock_deferred {place : Nat} {copy : Task} (here : placed[place]? = some number)
    (there : copies[place]? = some copy) (sameBot : copy.bot = task.bot)
    (created : copy.state = .created) (notCall : task.operation.isCall = false) :
    ∃ others added copies' locks', Follows host [.step (.task number)]
      (host.setTaskState number (.answered .locked)) (host.withTasks copies locks) others placed added
      copies' locks' := by
  have queues : task.state.queues = true := by rw [waiting]; rfl
  have late {other : Nat} {copy' : Task} (here' : placed[other]? = some number)
      (there' : copies[other]? = some copy') : copy'.state = .created := by
    obtain rfl := mirrors.place_unique here here'
    exact Option.some.inj (there.symm.trans there') ▸ created
  obtain ⟨lock', locks', run, untouched⟩ :=
    orderly'.enters (show Host.task? _ place = some copy from there) created
      fun there' same => outside_of_holds orderly orderly' mirrors.toTwins lined found queues
        refers holds late there' (same.trans sameBot)
  refine ⟨_, [], _, locks', ⟨run, ?_, ?_, ⟨trivial, fun _ _ => ⟨trivial, fun _ _ => trivial⟩⟩,
    rfl, ?_⟩⟩
  · rw [List.append_nil]
    exact mirrors.advance here (fun member _ => mirrors.called member) (.inl rfl)
      (fun _ => ⟨rfl, rfl, rfl⟩) (fun _ => ⟨rfl, rfl, rfl⟩)
  · rw [List.append_nil]
    refine Lined.modify (lined.among (fun there _ => there) ?_) place fun _ => rfl
    exact fun there _ refers => untouched there refers
  · rw [lockOrder_cons (after?_locked found waiting refers holds)]
    simp [locked?, found, notCall, lockOrder]

/-- The copy has waited for the lock as well, and has come to be its holder. -/
theorem follows_lock_queued {place : Nat} (here : placed[place]? = some number)
    (there : copies[place]? = some task) (notCall : task.operation.isCall = false) :
    ∃ others added copies' locks', Follows host [.step (.task number)]
      (host.setTaskState number (.answered .locked)) (host.withTasks copies locks) others placed added
      copies' locks' := by
  have queues : task.state.queues = true := by rw [waiting]; rfl
  obtain ⟨first, here', holds'⟩ := lined.head orderly orderly' there queues refers holds
  obtain rfl : place = first := mirrors.place_unique here here'
  have made' : (host.withTasks copies locks).after? (.step (.task place)) =
      some ((host.withTasks copies locks).setTaskState place (.answered .locked)) :=
    advance_of_answers (show (host.withTasks copies locks).task? place = some task from there) waiting
      (.locked refers holds')
  refine ⟨_, [], copies.modify place fun task => { task with state := .answered .locked }, locks,
    .once (after?_locked found waiting refers holds) made' ?_ ?_ trivial
      rfl rfl ?_⟩
  · rw [List.append_nil]
    exact mirrors.advance here (fun member _ => mirrors.called member) (.inl rfl)
      (fun _ => ⟨rfl, rfl, rfl⟩) (fun _ => ⟨rfl, rfl, rfl⟩)
  · rw [List.append_nil]
    exact lined.modify place fun _ => rfl
  · simp [locked?, found, notCall]

/-- There is no copy yet: the call is begun now, asks for its lock and has it at once. -/
theorem follows_lock_begun (absent : number ∉ placed) :
    ∃ others added copies' locks', Follows host [.step (.task number)]
      (host.setTaskState number (.answered .locked)) (host.withTasks copies locks) others placed added
      copies' locks' := by
  have queues : task.state.queues = true := by rw [waiting]; rfl
  obtain ⟨isCall, _⟩ := mirrors.away found absent
  have outside {place : Nat} {copy : Task} (there : copies[place]? = some copy)
      (sameBot : copy.bot = task.bot) : copy.state.outside = true :=
    outside_of_holds orderly orderly' mirrors.toTwins lined found queues refers holds
      (fun here _ => absurd (List.mem_of_getElem? here) absent) there sameBot
  let begun := ((host.withTasks copies locks).addTask task.operation task.bot).2
  have free {other : TaskNumber} {record : Task} (there : begun.task? other = some record)
      (sameBot : record.bot = task.bot) : record.state.outside = true := by
    obtain ⟨rfl, rfl⟩ | there := task?_addTask_cases there
    · rfl
    · exact outside there sameBot
  obtain ⟨lock', locks', run, untouched⟩ := (orderly'.addTask task.operation task.bot).enters
    ((host.withTasks copies locks).task?_addTask_self task.operation task.bot) rfl free
  have first : (host.withTasks copies locks).after? (.begin task.operation task.bot) =
      some begun := if_pos isCall
  refine ⟨_, [number], _, locks', ⟨.move first run, ?_, ?_, ⟨?_, fun _ _ => ⟨trivial, fun _ _ =>
    ⟨trivial, fun _ _ => trivial⟩⟩⟩, rfl, ?_⟩⟩
  · have here : (placed ++ [number])[copies.length]? = some number := by
      rw [← mirrors.length]
      exact List.getElem?_concat_length
    refine (mirrors.begin found absent).advance here ?_ (.inl rfl)
      (fun _ => ⟨rfl, rfl, rfl⟩) (fun _ => ⟨rfl, rfl, rfl⟩)
    intro other record among different
    exact mirrors.called ((List.mem_append.mp among).resolve_right fun last =>
      different (List.mem_singleton.mp last))
  · have begins := lined.begin orderly' mirrors.length number task.operation task.bot
    refine Lined.modify (begins.among (fun there _ => there) ?_) copies.length fun _ => rfl
    exact fun there _ refers => untouched there refers
  · exact unoccupied_of_outside mirrors outside
  · have kept : (host.setTaskState number (.answered .locked)).isCall number = true := by
      rw [Host.isCall, task?_setTaskState, if_pos rfl, found]
      exact isCall
    rw [lockOrder_cons (after?_locked found waiting refers holds)]
    simp [locked?, isCall, kept, found, queues, lockOrder]

end

/-- A task gets its lock; unless its copy has waited for the lock, this asks for it now, after it has
been begun if it is a call. -/
theorem follows_lock {number : TaskNumber} {task : Task} (orderly : host.Orderly)
    (orderly' : (host.withTasks copies locks).Orderly) (mirrors : Mirrors placed host.tasks copies)
    (lined : Lined host.locks.locks placed copies locks.locks)
    (found : host.task? number = some task) (waiting : task.state = .waiting .lock)
    (made : host.after? (.step (.task number)) = some next) :
    ∃ others added copies' locks', Follows host [.step (.task number)] next
      (host.withTasks copies locks) others placed added copies' locks' := by
  obtain ⟨lock, refers, holds, rfl⟩ : ∃ lock, task.lock = some lock ∧
      host.locks.holds lock number = true ∧
        next = host.setTaskState number (.answered .locked) := by
    obtain ⟨created, _⟩ | ⟨wait, answer, answered, waiting', taken, rfl⟩ | ⟨answer, answered, _⟩ :=
      advance_found_cases found made
    · cases waiting.symm.trans created
    · cases waiting.symm.trans waiting'
      cases answers_of_answer? taken with
      | locked refers holds => exact ⟨_, refers, holds, rfl⟩
    · cases waiting.symm.trans answered
  by_cases member : number ∈ placed
  · obtain ⟨place, here⟩ := List.mem_iff_getElem?.mp member
    obtain ⟨record, copy, found', there, same⟩ := mirrors.copied here
    obtain rfl : task = record := Option.some.inj (found.symm.trans found')
    have notCall : task.operation.isCall = false := by
      by_contra isCall
      exact mirrors.called member found (by simpa using isCall) (by rw [waiting]; rfl)
    rcases same.state with deferred | ⟨_, rfl⟩
    · have created : copy.state = .created := deferred.trans (by rw [waiting]; rfl)
      exact follows_lock_deferred orderly orderly' mirrors lined found waiting refers holds here there
        same.bot created notCall
    · exact follows_lock_queued orderly orderly' mirrors lined found waiting refers holds here there
        notCall
  · exact follows_lock_begun orderly orderly' mirrors lined found waiting refers holds member

theorem follows_step {move : Move} (orderly : host.Orderly)
    (orderly' : (host.withTasks copies locks).Orderly) (mirrors : Mirrors placed host.tasks copies)
    (lined : Lined host.locks.locks placed copies locks.locks)
    (made : host.after? move = some next) :
    ∃ others added copies' locks', Follows host [move] next (host.withTasks copies locks) others
      placed added copies' locks' := by
  by_cases outer : move.isOuter = true
  · exact ⟨_, _, _, _, follows_outer outer mirrors lined made⟩
  cases move with
  | begin operation bot => exact ⟨_, _, _, _, follows_begin mirrors lined made⟩
  | shutdown => exact ⟨_, _, _, _, follows_shutdown mirrors lined made⟩
  | step process =>
    cases process with
    | loop generation =>
      obtain ⟨added, copies', follows⟩ := follows_loop orderly' mirrors lined made
      exact ⟨_, _, _, _, follows⟩
    | task number =>
      obtain ⟨task, found, ⟨created, rfl⟩ | ⟨wait, answer, answered, waiting, taken, rfl⟩ |
        ⟨answer, answered, rfl⟩⟩ := advance_task_cases made
      · exact ⟨_, _, _, _, follows_ask orderly mirrors lined found created⟩
      · by_cases atLock : wait = .lock
        · subst atLock
          exact follows_lock orderly orderly' mirrors lined found waiting made
        · obtain ⟨others, copies', follows⟩ := follows_answer mirrors lined found waiting atLock taken
          exact ⟨_, _, _, _, follows⟩
      · obtain ⟨others, copies', locks', follows⟩ :=
          follows_resume orderly orderly' mirrors lined found answered
        exact ⟨_, _, _, _, follows⟩
  | _ => exact absurd rfl outer

end

/-! ### Following a run -/

namespace Run

variable {host last : Host} {moves : List Move}

theorem isCall (run : Run host moves last) {number : TaskNumber} {task : Task}
    (found : host.task? number = some task) : last.isCall number = task.operation.isCall := by
  obtain ⟨_, _, found'⟩ := run.task? found
  rw [Host.isCall, found']
  rfl

/-- A task that has ended stays as it is. -/
theorem task?_of_ended (run : Run host moves last) {number : TaskNumber} {task : Task}
    (found : host.task? number = some task) (ended : task.state.ended = true) :
    last.task? number = some task := by
  refine @keeps (fun host => host.task? number = some task) ?_ _ _ _ run found
  intro host next move found made
  refine task?_after_of_ne made ?_ found
  rintro rfl
  cases state : task.state with
  | finished => cases (advance_of_finished found state).symm.trans made
  | created | waiting | answered =>
    rw [state] at ended
    cases ended

theorem follows (run : Run host moves last) {placed : List TaskNumber} {copies : List Task}
    {locks : LockTable} (orderly : host.Orderly) (orderly' : (host.withTasks copies locks).Orderly)
    (mirrors : Mirrors placed host.tasks copies)
    (lined : Lined host.locks.locks placed copies locks.locks) :
    ∃ others added copies' locks', Follows host moves last (host.withTasks copies locks) others
      placed added copies' locks' := by
  induction run generalizing placed copies locks with
  | rest host =>
    refine ⟨[], [], copies, locks, .rest _, ?_, ?_, trivial, rfl, rfl⟩
    · rw [List.append_nil]
      exact mirrors
    · rw [List.append_nil]
      exact lined
  | @move host next last move moves made run inductionHypothesis =>
    obtain ⟨others, added, copies', locks', step⟩ := follows_step orderly orderly' mirrors lined made
    have orderly'' := step.run.keeps (fun orderly made => orderly.move made) orderly'
    obtain ⟨others', added', copies'', locks'', rest⟩ :=
      inductionHypothesis (orderly.move made) orderly'' step.mirrors step.lined
    refine ⟨others ++ others', added ++ added', copies'', locks'', step.run.append rest.run, ?_, ?_,
      step.oneByOne.append step.run rest.oneByOne, ?_, ?_⟩
    · rw [← List.append_assoc]
      exact rest.mirrors
    · rw [← List.append_assoc]
      exact rest.lined
    · rw [List.filter_append, step.outer, rest.outer, ← List.filter_append]
      rfl
    · have same : added.filter last.isCall = added.filter next.isCall := by
        refine List.filter_congr fun number member => ?_
        obtain ⟨task, found⟩ := step.mirrors.exists_of_mem (List.mem_append_right _ member)
        rw [run.isCall found, Host.isCall, show next.task? number = some task from found]
        rfl
      rw [List.filter_append, same, step.order, rest.order, lockOrder_cons made, lockOrder_cons made,
        lockOrder, List.append_nil]

end Run

/-! ### The serial run -/

/-- The calls there have been, in the order in which they were begun. -/
def calls (host : Host) : List Task := host.tasks.filter fun task => task.operation.isCall

/-- No call is under way. -/
def Calm (host : Host) : Prop := ∀ task ∈ host.calls, task.state.ended = true

theorem Calm.seeded (patterns : PatternEngine) (settings : ManagerSettings) (bots : List Bot) :
    (Host.seeded patterns settings bots).Calm := by
  intro task member
  cases member

theorem Calm.ended {host : Host} (calm : host.Calm) {number : TaskNumber} {task : Task}
    (found : host.task? number = some task) (isCall : task.operation.isCall = true) :
    task.state.ended = true :=
  calm task (List.mem_filter.mpr ⟨List.mem_of_getElem? found, isCall⟩)

/-- Unless a call is under way, all tasks may be copied as they are. -/
theorem Calm.mirrors {host : Host} (calm : host.Calm) :
    Mirrors (List.range host.tasks.length) host.tasks host.tasks := by
  refine { length := List.length_range, nodup := List.nodup_range, copied := ?_, away := ?_,
           called := ?_ }
  · intro place number here
    obtain ⟨bound, rfl⟩ := List.getElem?_eq_some_iff.mp here
    rw [List.length_range] at bound
    rw [List.getElem_range]
    refine ⟨_, _, List.getElem?_eq_getElem bound, List.getElem?_eq_getElem bound, rfl, rfl, ?_⟩
    by_cases queues : host.tasks[place].state.queues = true
    · exact .inr ⟨queues, rfl⟩
    · exact .inl (TaskState.deferred_eq_self (by simpa using queues)).symm
  · intro number task found absent
    exact absurd (List.mem_range.mpr (List.getElem?_eq_some_iff.mp found).1) absent
  · intro number task _ found isCall
    obtain ⟨kept, begun⟩ := TaskState.deferred_eq (.inr (calm.ended found isCall))
    rw [kept]
    exact begun

/-- What a list keeps of its items is found again through numbers in the same places. -/
theorem filter_eq_filterMap {Item : Type} {numbers : List Nat} {items : List Item}
    {chosen : Nat → Bool} {accepts : Item → Bool} {item? : Nat → Option Item}
    (length : numbers.length = items.length)
    (each : ∀ {place number : Nat} {item : Item}, numbers[place]? = some number →
      items[place]? = some item → chosen number = accepts item ∧
        (accepts item = true → item? number = some item)) :
    items.filter accepts = (numbers.filter chosen).filterMap item? := by
  induction numbers generalizing items with
  | nil =>
    obtain rfl := List.length_eq_zero_iff.mp length.symm
    rfl
  | cons number numbers inductionHypothesis =>
    cases items with
    | nil => cases length
    | cons item items =>
      have rest := inductionHypothesis (Nat.succ.inj length) fun {place _ _} here there =>
        @each (place + 1) _ _ here there
      obtain ⟨same, known⟩ := @each 0 number item rfl rfl
      rw [List.filter_cons, List.filter_cons, same, rest]
      split
      next accepted => rw [List.filterMap_cons_some (known accepted)]
      · rfl

section

variable {first last : Host} {placed : List TaskNumber} {copies : List Task} {locks : LockTable}

/-- Once all calls have ended, the copies of calls are the calls. -/
theorem calls_eq_of_mirrors (mirrors : Mirrors placed last.tasks copies) (orderly : last.Orderly)
    (orderly' : (last.withTasks copies locks).Orderly) (calm : last.Calm) :
    (last.withTasks copies locks).calls = (placed.filter last.isCall).filterMap last.task? := by
  refine filter_eq_filterMap mirrors.length ?_
  intro place number copy here there
  obtain ⟨task, copy', found, there', same⟩ := mirrors.copied here
  change last.task? number = some task at found
  rw [show copies[place]? = some copy from there] at there'
  obtain rfl := Option.some.inj there'
  refine ⟨by rw [isCall, found, same.operation]; rfl, fun isCall => ?_⟩
  have finished := calm.ended found (same.operation ▸ isCall)
  have reached := same.state_eq (.inr finished)
  have outside : task.state.outside = true := by
    generalize task.state = state at finished
    cases state <;> first | rfl | cases finished
  have free := (orderly.refers found).mpr outside
  have free' := (orderly'.refers (show Host.task? _ place = some copy from there)).mpr
    (reached ▸ outside)
  rw [found]
  obtain ⟨operation, bot, lock, state⟩ := task
  obtain ⟨operation', bot', lock', state'⟩ := copy
  obtain ⟨rfl, rfl, _⟩ := same
  cases free
  cases free'
  cases reached
  rfl

/-- The calls that have ended are still what they were after a run. -/
theorem Run.earlier_calls {moves : List Move} (run : Run first moves last) (calm : first.Calm) :
    first.calls =
      ((List.range first.tasks.length).filter last.isCall).filterMap last.task? := by
  refine filter_eq_filterMap List.length_range ?_
  intro place number task here found
  obtain ⟨bound, rfl⟩ := List.getElem?_eq_some_iff.mp here
  rw [List.getElem_range]
  exact ⟨run.isCall found, fun isCall => run.task?_of_ended found (calm.ended found isCall)⟩

/-- Once all calls have ended, each has a copy. -/
theorem perm_of_mirrors (mirrors : Mirrors placed last.tasks copies) (calm : last.Calm) :
    (placed.filter last.isCall).Perm ((List.range last.tasks.length).filter last.isCall) := by
  refine (List.perm_ext_iff_of_nodup (mirrors.nodup.filter _) (List.nodup_range.filter _)).mpr ?_
  intro number
  simp only [List.mem_filter, List.mem_range, and_congr_left_iff]
  intro isCall
  obtain ⟨task, found, isCall⟩ := (Option.any_eq_true _ _).mp isCall
  have bound := last.task?_lt found
  refine iff_of_true ?_ bound
  by_contra absent
  obtain ⟨kept, begun⟩ := TaskState.deferred_eq (.inr (calm.ended found isCall))
  exact begun (kept.symm.trans (mirrors.away found absent).2)

/-- Another run does one by one what a run does at once. The calls on each bot are made in the order
in which they got their locks, and nothing else that happens from outside is different, nor when it
happens. Every call has the result it had, and the registry, the store, the transport and the loops
are in the end the same. -/
structure Serializes (first : Host) (moves : List Move) (last : Host) (others : List Move)
    (serial : Host) : Prop where
  run : Run first others serial
  oneByOne : OneByOne first others
  outer : others.filter Move.isOuter = moves.filter Move.isOuter
  same : serial = last.withTasks serial.tasks serial.locks
  order : serial.calls = first.calls ++ (lockOrder first moves).filterMap last.task?
  all : serial.calls.Perm last.calls

/-- However calls are interleaved, they could have been made one after another. -/
theorem Run.serializes {moves : List Move} (reachable : first.Reachable) (calm : first.Calm)
    (run : Run first moves last) (calm' : last.Calm) :
    ∃ others serial, Serializes first moves last others serial := by
  obtain ⟨others, added, copies, locks, follows⟩ :=
    @Run.follows _ _ _ run _ first.tasks first.locks reachable.orderly reachable.orderly
      calm.mirrors (.self reachable.orderly)
  have follows' : Run first others (last.withTasks copies locks) := follows.run
  have orderly := (reachable.run run).orderly
  have calls := calls_eq_of_mirrors follows.mirrors orderly (reachable.run follows').orderly calm'
  refine ⟨others, last.withTasks copies locks, follows', follows.oneByOne, follows.outer, rfl, ?_, ?_⟩
  · rw [calls, List.filter_append, List.filterMap_append, ← run.earlier_calls calm, follows.order]
  · rw [calls, (Run.rest last).earlier_calls calm']
    exact (perm_of_mirrors follows.mirrors calm').filterMap last.task?

end

end Host

end BotHost
