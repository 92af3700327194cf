/-
A stop with nothing to stop.

A stop of a bot that does not run only looks whether there is such a bot, and returns accordingly. It
changes nothing. As it looks into the store, it fails when the store does.
-/

import BotHost.Proofs.Manager.Attempting
import BotHost.Proofs.Manager.Completion
import BotHost.Proofs.Manager.Overtaking

namespace BotHost

namespace Host

/-- What a stop of a bot that does not run returns, if it looks the bot up here. -/
def lookupResult (host : Host) (bot : String) : Except ManagerFault Success :=
  if host.fails .get then .error (.store FaultPoint.get.unavailable)
  else if host.store.contains bot then .ok .done
  else .error (.botNotFound bot)

section

variable (first : Host) (moves : List Move) (steps : List (Host × Host)) (bot : String)

/-- It does not depend on the moves whether a bot is stored: it is, or only others are registered. -/
def Settles : Prop :=
  (first.store.find? bot).isSome = true ∨ ∀ stored, .register stored ∈ moves → stored.id ≠ bot

/-- A host in which one of the steps began. Its record of the bot is the first one, unless the bot has
been registered meanwhile. -/
structure Reads (read : Host) : Prop where
  among : ∃ next, (read, next) ∈ steps
  same : first.Settles moves bot → read.store.find? bot = first.store.find? bot

/-- What a stop has come to that had nothing to stop: it has looked up its bot and changed nothing. -/
structure LookedUp (result : Except ManagerFault Success) : Prop where
  still : ∀ step ∈ steps, step.1.Still step.2
  result : ∃ read, Reads first moves steps bot read ∧ result = read.lookupResult bot

/-- What such a stop has come to, by where it is. -/
inductive Looking : TaskState → Prop
  | locked : Looking (.answered .locked)
  | looks : Looking (.waiting .readToStop)
  | looked {read : Host} (reads : Reads first moves steps bot read) :
      Looking (.answered (.readToStop (read.storeFind bot)))
  | ended {read : Host} (reads : Reads first moves steps bot read) :
      Looking (.finished (read.lookupResult bot))

end

variable {first granted host next last : Host} {moves : List Move} {move : Move}
  {steps : List (Host × Host)} {number : TaskNumber} {task record : Task} {bot : String}

/-! ### Who is past the lock -/

section

variable (reachable : host.Reachable) (found : host.task? number = some task)
  (inside : task.state.inside = true) (patient : task.state.patient = true)

include reachable found inside patient

theorem Reachable.alone : host.Alone number task.bot where
  others found' ofBot inside' := reachable.orderly.alone found found' inside inside' ofBot
  patient found' := by
    cases Option.some.inj (found.symm.trans found')
    exact patient

variable (made : host.after? move = some next) (other : move ≠ .step (.task number))

include made other

/-- What others do does not reach the instance of a bot whose lock a task has. -/
theorem running?_of_other : next.running? task.bot = host.running? task.bot := by
  by_cases registers : ∃ stored, move = .register stored
  · obtain ⟨stored, rfl⟩ := registers
    cases made
    rw [register_eq]
    rfl
  · have alone := reachable.alone found inside patient
    exact (alone.aside reachable made other fun stored same => absurd ⟨stored, same⟩ registers).1

/-- Unless the bot is registered, it does not reach the record either, if there is one or not. -/
theorem find?_of_settled (settled : (host.store.find? task.bot).isSome = true ∨
      ∀ stored, move = .register stored → stored.id ≠ task.bot) :
    next.store.find? task.bot = host.store.find? task.bot := by
  rcases settled with stored | unregistered
  · exact find?_of_other reachable found inside stored made other
  · exact ((reachable.alone found inside patient).aside reachable made other unregistered).2

end

/-! ### Steps of a stop that has nothing to stop -/

theorem Settles.of_concat (settles : first.Settles (moves ++ [move]) bot) :
    first.Settles moves bot ∧ ((first.store.find? bot).isSome = true ∨
      ∀ stored, move = .register stored → stored.id ≠ bot) := by
  rcases settles with stored | unregistered
  · exact ⟨.inl stored, .inl stored⟩
  · refine ⟨.inr fun stored member => unregistered stored (List.mem_append_left _ member), .inr ?_⟩
    rintro stored rfl
    exact unregistered stored (List.mem_append_right _ List.mem_cons_self)

theorem Reads.mono {read : Host} (reads : Reads first moves steps bot read)
    (later : List (Host × Host)) (move : Move) :
    Reads first (moves ++ [move]) (steps ++ later) bot read where
  among := reads.among.imp fun _ => List.mem_append_left _
  same settles := reads.same settles.of_concat.1

theorem Looking.mono {state : TaskState} (looking : Looking first moves steps bot state)
    (later : List (Host × Host)) (move : Move) :
    Looking first (moves ++ [move]) (steps ++ later) bot state := by
  cases looking with
  | locked => exact .locked
  | looks => exact .looks
  | looked reads => exact .looked (reads.mono later move)
  | ended reads => exact .ended (reads.mono later move)

/-- Whether such a stop has returned or not, it is past its lock and waits for nothing. -/
theorem Looking.ready_of_unended (looking : Looking first moves steps bot task.state)
    (unended : task.state.ended = false) (found : host.task? number = some task) :
    task.state.inside = true ∧ task.state.patient = true ∧ host.ready (.task number) = true := by
  generalize same : task.state = state at looking unended
  cases looking with
  | locked | looked => exact ⟨rfl, rfl, ready_of_advance (advance_of_answered found same)⟩
  | looks => exact ⟨rfl, rfl, ready_of_advance (advance_of_answers found same .readToStop)⟩
  | ended => cases unended

theorem afterStop_of_storeFind (host read : Host) (number : TaskNumber) (task : Task)
    (stops : task.operation = .stop) :
    host.resume number task (.readToStop (read.storeFind task.bot)) =
      host.finish number task (read.lookupResult task.bot) := by
  unfold storeFind lookupResult BotStore.contains
  split
  · simp only [resume, afterStop, stops]
  · cases read.store.find? task.bot <;> simp only [resume, afterStop, stops] <;> rfl

/-- The step of such a stop changes nothing and leads on to its return. -/
theorem Looking.advance (looking : Looking first moves steps task.bot task.state)
    (found : host.task? number = some task) (stops : task.operation = .stop)
    (gone : host.running? task.bot = none)
    (same : first.Settles moves task.bot → host.store.find? task.bot = first.store.find? task.bot)
    (stepped : host.advance (.task number) = some next) :
    host.Still next ∧ ∃ lock state, next.task? number = some { task with lock, state } ∧
      Looking first (moves ++ [.step (.task number)]) (steps ++ [(host, next)]) task.bot state := by
  generalize now : task.state = state at looking
  have waits (answered : task.state = .answered .locked) :
      host.resume number task .locked = host.waitFor number .readToStop := by
    show host.begin number task = _
    simp only [Host.begin, stops, gone]
  rcases advance_found_cases found stepped with ⟨created, rfl⟩ |
    ⟨wait, answer, answered, waiting, taken, rfl⟩ | ⟨answer, answered, rfl⟩
  · cases looking <;> cases now.symm.trans created
  · cases looking <;> cases now.symm.trans waiting
    cases answers_of_answer? taken
    have reads : Reads first (moves ++ [.step (.task number)])
        (steps ++ [(host, host.setTaskState number
          (.answered (.readToStop (host.storeFind task.bot))))]) task.bot host :=
      ⟨⟨_, List.mem_append_right _ List.mem_cons_self⟩, fun settles => same settles.of_concat.1⟩
    exact ⟨rfl, task.lock, _, task?_changeTask_self found _, .looked reads⟩
  · cases looking with
    | locked =>
      cases now.symm.trans answered
      rw [waits now]
      exact ⟨rfl, task.lock, _, waitFor_found found, .looks⟩
    | @looked read reads =>
      cases now.symm.trans answered
      rw [afterStop_of_storeFind host read number task stops]
      exact ⟨still_finish .., none, _, task?_finish_self found _, .ended (reads.mono _ _)⟩
    | looks | ended => cases now.symm.trans answered

/-! ### Such a stop from its lock to its return -/

/-- How far a stop that has nothing to stop has come in the course of a run. -/
structure Inquiring (first : Host) (moves : List Move) (host : Host) (number : TaskNumber)
    (bot : String) : Prop where
  reachable : host.Reachable
  still : ∀ step ∈ first.stepsOf number moves, step.1.Still step.2
  phase : ∃ lock state, host.task? number = some ⟨.stop, bot, lock, state⟩ ∧
    Looking first moves (first.stepsOf number moves) bot state ∧
      (state.ended = false → host.running? bot = none ∧
        (first.Settles moves bot → host.store.find? bot = first.store.find? bot))

namespace Inquiring

variable (inquiring : Inquiring first moves host number bot) (run : Run first moves host)

include inquiring run

theorem advance (stepped : host.advance (.task number) = some next) :
    Inquiring first (moves ++ [.step (.task number)]) next number bot := by
  obtain ⟨reachable, still, lock, state, found, looking, holds⟩ := inquiring
  have unended : state.ended = false := unended_of_advance found stepped
  obtain ⟨gone, same⟩ := holds unended
  obtain ⟨now, lock', state', found', looking'⟩ :=
    @Looking.advance _ _ next _ _ _ _ looking found rfl gone same stepped
  have made : host.after? (.step (.task number)) = some next := stepped
  refine ⟨reachable.run (.move made (.rest next)), ?_, lock', state', found', ?_, fun _ => ⟨?_, ?_⟩⟩
  · rw [run.stepsOf_self stepped]
    exact List.forall_mem_append.mpr ⟨still, List.forall_mem_singleton.mpr now⟩
  · rw [run.stepsOf_self stepped]
    exact looking'
  · exact (now.running? bot).trans gone
  · exact fun settles => (now.find? bot).trans (same settles.of_concat.1)

theorem after_of_ne (made : host.after? move = some next) (other : move ≠ .step (.task number)) :
    Inquiring first (moves ++ [move]) next number bot := by
  obtain ⟨reachable, still, lock, state, found, looking, holds⟩ := inquiring
  have steps := run.stepsOf_of_ne made other
  refine ⟨reachable.run (.move made (.rest next)), steps ▸ still, lock, state,
    task?_after_of_ne made other found, ?_, fun unended => ?_⟩
  · have later := looking.mono [] move
    rwa [List.append_nil, ← steps] at later
  · obtain ⟨gone, same⟩ := holds unended
    obtain ⟨inside, patient, _⟩ := @Looking.ready_of_unended _ _ _ _ _ ⟨.stop, bot, lock, state⟩ _ looking
      unended found
    refine ⟨(running?_of_other reachable found inside patient made other).trans gone, fun settles => ?_⟩
    obtain ⟨settles, settled⟩ := settles.of_concat
    rw [← same settles] at settled ⊢
    exact find?_of_settled reachable found inside patient made other settled

/-- It takes no more than steps of its own to return. -/
theorem completes : ∃ count last record, Run host (.replicate count (.step (.task number))) last ∧
    last.task? number = some record ∧ record.state.ended = true := by
  obtain ⟨lock, state, found, looking, holds⟩ := inquiring.phase
  clear holds
  induction left : state.stepsLeft using Nat.strong_induction_on
    generalizing host moves lock state with
  | _ left inductionHypothesis =>
    by_cases ended : state.ended = true
    · exact ⟨0, host, _, .rest host, found, ended⟩
    obtain ⟨_, _, ready⟩ := @Looking.ready_of_unended _ _ _ _ _ ⟨.stop, bot, lock, state⟩ _ looking
      (by simpa using ended) found
    obtain ⟨next, stepped⟩ := Option.isSome_iff_exists.mp ready
    have made : host.after? (.step (.task number)) = some next := stepped
    have inquiring' := inquiring.advance run stepped
    obtain ⟨lock', state', found', less⟩ := advance_stepsLeft found stepped
    obtain ⟨_, _, found'', looking', _⟩ := inquiring'.phase
    cases Option.some.inj (found'.symm.trans found'')
    obtain ⟨count, last, record, rest, returned⟩ := inductionHypothesis _ (left ▸ less) inquiring'
      (run.concat made) lock' state' found' looking' rfl
    exact ⟨count + 1, last, record, .move made rest, returned⟩

end Inquiring

end Host

end BotHost
