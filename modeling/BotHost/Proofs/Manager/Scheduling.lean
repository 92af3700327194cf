/-
The schedule takes turns that the host could take.

Whatever the schedule does while its client waits is a run of the host: processes take steps, and when
none of them has one to take, time passes. So what every move keeps holds of a host under the schedule
as well, whatever bounds the schedule sets itself.
-/

import BotHost.Manager.Schedule
import BotHost.Proofs.Manager.Delivery
import BotHost.Proofs.Manager.Generations

namespace BotHost

namespace Host

/-- Some run leads from one host to another. -/
def Becomes (host later : Host) : Prop := ∃ moves, Run host moves later

namespace Becomes

theorem refl (host : Host) : host.Becomes host := ⟨[], .rest host⟩

variable {host middle later : Host}

theorem trans (first : host.Becomes middle) (rest : middle.Becomes later) : host.Becomes later := by
  obtain ⟨moves, run⟩ := first
  obtain ⟨others, run'⟩ := rest
  exact ⟨moves ++ others, run.append run'⟩

theorem of_move {move : Move} (made : host.after? move = some later) : host.Becomes later :=
  ⟨[move], .move made (.rest later)⟩

theorem settings (becomes : host.Becomes later) : later.settings = host.settings := by
  obtain ⟨moves, run⟩ := becomes
  exact run.settings

/-- Loops that have been launched stay. -/
theorem nextGeneration_le (becomes : host.Becomes later) :
    host.nextGeneration ≤ later.nextGeneration := by
  obtain ⟨moves, run⟩ := becomes
  exact run.keeps (fun before made => Nat.le_trans before (Host.nextGeneration_le made))
    (Nat.le_refl _)

end Becomes

/-- The next time at which something is due is still to come. -/
theorem lt_of_nextTime {host : Host} {errands : List Errand} {time : Nat}
    (next : host.nextTime? errands = some time) : host.now < time := by
  have member := List.min?_mem next
  simpa using (List.mem_filter.mp member).2

end Host

namespace Schedule

/-! ### Turns -/

theorem becomes_runProcess (process : Process) (fuel : Nat) (schedule : Schedule) :
    schedule.host.Becomes (runProcess process fuel schedule).host := by
  induction fuel generalizing schedule with
  | zero => exact .refl _
  | succ fuel inductionHypothesis =>
    unfold runProcess
    split
    next host stepped =>
      have step : schedule.host.Becomes host :=
        .of_move (show Host.after? _ (.step process) = _ from stepped)
      exact step.trans (inductionHypothesis (schedule.changed host))
    next => exact .refl _

theorem becomes_run (schedule : Schedule) (process : Process) :
    schedule.host.Becomes (schedule.run process).host :=
  becomes_runProcess process _ schedule

theorem becomes_drainQueue (fuel : Nat) (schedule : Schedule) :
    schedule.host.Becomes (drainQueue fuel schedule).host := by
  induction fuel generalizing schedule with
  | zero => exact .refl _
  | succ fuel inductionHypothesis =>
    unfold drainQueue
    split
    next => exact .refl _
    next process rest _ =>
      have ran := becomes_run { schedule with queue := rest } process
      refine ran.trans ?_
      exact inductionHypothesis
        { ({ schedule with queue := rest }.run process) with
          resting := ({ schedule with queue := rest }.run process).resting ++ [process] }

theorem becomes_poll (errands : List Errand) (schedule : Schedule) :
    schedule.host.Becomes (schedule.poll errands).host := by
  unfold poll
  induction errands generalizing schedule with
  | nil => exact .refl _
  | cons errand errands inductionHypothesis =>
    cases errand with
    | pause due => exact inductionHypothesis schedule
    | task number =>
      exact (becomes_run schedule (.task number)).trans (inductionHypothesis _)

/-! ### Waiting -/

theorem becomes_jump {schedule : Schedule} {errands : List Errand} {time : Nat}
    (next : schedule.host.nextTime? errands = some time) :
    schedule.host.Becomes (schedule.jump time).host := by
  have later := Host.lt_of_nextTime next
  have clock : schedule.host.now + (time - schedule.host.now) = time := by omega
  have passes : schedule.host.after? (.pass (time - schedule.host.now)) =
      some { schedule.host with now := time } := by
    rw [Host.after?, clock]
  exact .of_move passes

theorem becomes_awaitAll (errands : List Errand) (fuel : Nat) (schedule : Schedule) :
    schedule.host.Becomes (awaitAll errands fuel schedule).host := by
  induction fuel generalizing schedule with
  | zero => exact .refl _
  | succ fuel inductionHypothesis =>
    have polled := becomes_poll errands schedule
    have drained : schedule.host.Becomes (schedule.poll errands).drain.host :=
      polled.trans (becomes_drainQueue _ _)
    unfold awaitAll
    dsimp only
    split
    next => exact polled
    next =>
      split
      next => exact drained.trans (inductionHypothesis _)
      next =>
        split
        next next => exact (drained.trans (becomes_jump next)).trans (inductionHypothesis _)
        next => exact drained

theorem becomes_await (schedule : Schedule) (errands : List Errand) :
    schedule.host.Becomes (schedule.await errands).host :=
  becomes_awaitAll errands _ schedule

theorem becomes_beginTask (schedule : Schedule) {operation : Operation} (bot : String)
    (isCall : operation.isCall = true) :
    schedule.host.Becomes (schedule.beginTask operation bot).2.host := by
  have begun : schedule.host.Becomes (schedule.call (·.addTask operation bot)).2.host :=
    .of_move (show Host.after? _ (.begin operation bot) = _ from if_pos isCall)
  exact begun.trans (becomes_run _ _)

end Schedule

end BotHost
